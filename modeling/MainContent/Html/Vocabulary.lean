import MainContent.Html.Token
import MainContent.Text.Ascii

/-!
# Names with a part in the structure

The names of elements that the rules of tree construction single out, and the spelling of names that
SVG and MathML write with capitals.
-/

namespace MainContent.Html

/-- A name together with its vocabulary. -/
abbrev QualifiedName := Namespace × String

/-- The headings. -/
def headings : List String := ["h1", "h2", "h3", "h4", "h5", "h6"]

/-- The elements in whose end tags a paragraph and other elements end by themselves. -/
def impliedEnds : List String :=
  ["dd", "dt", "li", "optgroup", "option", "p", "rb", "rp", "rt", "rtc"]

/-- The elements that also end by themselves when a template does. -/
def thoroughImpliedEnds : List String :=
  impliedEnds ++ ["caption", "colgroup", "tbody", "td", "tfoot", "th", "thead", "tr"]

/-- The elements that format text, and are opened again behind the end of a block. -/
def formatting : List String :=
  ["b", "big", "code", "em", "font", "i", "s", "small", "strike", "strong", "tt", "u"]

/-- The blocks that end a paragraph. -/
def blocks : List String :=
  ["address", "article", "aside", "blockquote", "center", "details", "dialog", "dir", "div", "dl",
    "fieldset", "figcaption", "figure", "footer", "header", "hgroup", "main", "menu", "nav", "ol",
    "p", "search", "section", "summary", "ul"]

/-- The blocks whose end tag ends what is open inside them. -/
def closingBlocks : List String :=
  ["address", "article", "aside", "blockquote", "button", "center", "details", "dialog", "dir",
    "div", "dl", "fieldset", "figcaption", "figure", "footer", "header", "hgroup", "listing",
    "main", "menu", "nav", "ol", "pre", "search", "section", "summary", "ul"]

/-- The parts of a table. -/
def tableParts : List String :=
  ["caption", "col", "colgroup", "tbody", "td", "tfoot", "th", "thead", "tr"]

/-- The elements in which content that is out of place is put before the table. -/
def fosterTargets : List String :=
  ["table", "tbody", "tfoot", "thead", "tr"]

/-- The HTML elements that are special. -/
def specialHtml : List String :=
  ["address", "applet", "area", "article", "aside", "base", "basefont", "bgsound", "blockquote",
    "body", "br", "button", "caption", "center", "col", "colgroup", "dd", "details", "dir", "div",
    "dl", "dt", "embed", "fieldset", "figcaption", "figure", "footer", "form", "frame", "frameset",
    "h1", "h2", "h3", "h4", "h5", "h6", "head", "header", "hgroup", "hr", "html", "iframe", "img",
    "input", "isindex", "li", "link", "listing", "main", "marquee", "menu", "meta", "nav",
    "noembed", "noframes", "noscript", "object", "ol", "p", "param", "plaintext", "pre", "script",
    "section", "select", "source", "style", "summary", "table", "tbody", "td", "template",
    "textarea", "tfoot", "th", "thead", "title", "tr", "track", "ul", "wbr", "xmp"]

/-- The MathML elements that hold plain text. -/
def mathText : List String := ["mi", "mo", "mn", "ms", "mtext"]

/-- The SVG elements that hold HTML. -/
def svgHolders : List String := ["foreignObject", "desc", "title"]

/-- Whether an element is special. -/
def isSpecial : QualifiedName → Bool
  | (.html, n) => specialHtml.contains n
  | (.math, n) => mathText.contains n || n == "annotation-xml"
  | (.svg, n) => svgHolders.contains n

/-- Whether an element bounds the usual scope. -/
def boundsScope : QualifiedName → Bool
  | (.html, n) =>
    ["applet", "caption", "html", "table", "td", "th", "marquee", "object", "template"].contains n
  | (.math, n) => mathText.contains n || n == "annotation-xml"
  | (.svg, n) => svgHolders.contains n

/-- Whether an element bounds the scope of list items. -/
def boundsListScope (q : QualifiedName) : Bool :=
  boundsScope q || q == (.html, "ol") || q == (.html, "ul")

/-- Whether an element bounds the scope of buttons. -/
def boundsButtonScope (q : QualifiedName) : Bool :=
  boundsScope q || q == (.html, "button")

/-- Whether an element bounds the scope of tables. -/
def boundsTableScope (q : QualifiedName) : Bool :=
  q == (.html, "html") || q == (.html, "table") || q == (.html, "template")

/-- Whether an element bounds the scope of selections. -/
def boundsSelectScope (q : QualifiedName) : Bool :=
  !(q == (.html, "optgroup") || q == (.html, "option"))

/-- The HTML start tags that end SVG and MathML. -/
def breakouts : List String :=
  ["b", "big", "blockquote", "body", "br", "center", "code", "dd", "div", "dl", "dt", "em", "embed",
    "h1", "h2", "h3", "h4", "h5", "h6", "head", "hr", "i", "img", "li", "listing", "menu", "meta",
    "nobr", "ol", "p", "pre", "ruby", "s", "small", "span", "strong", "strike", "sub", "sup",
    "table", "tt", "u", "ul", "var"]

/-- The names of SVG elements that are written with capitals. -/
def svgElementNames : List String :=
  ["altGlyph", "altGlyphDef", "altGlyphItem", "animateColor", "animateMotion", "animateTransform",
    "clipPath", "feBlend", "feColorMatrix", "feComponentTransfer", "feComposite",
    "feConvolveMatrix", "feDiffuseLighting", "feDisplacementMap", "feDistantLight", "feDropShadow",
    "feFlood", "feFuncA", "feFuncB", "feFuncG", "feFuncR", "feGaussianBlur", "feImage", "feMerge",
    "feMergeNode", "feMorphology", "feOffset", "fePointLight", "feSpecularLighting", "feSpotLight",
    "feTile", "feTurbulence", "foreignObject", "glyphRef", "linearGradient", "radialGradient",
    "textPath"]

/-- The names of SVG attributes that are written with capitals. -/
def svgAttributeNames : List String :=
  ["attributeName", "attributeType", "baseFrequency", "baseProfile", "calcMode", "clipPathUnits",
    "diffuseConstant", "edgeMode", "filterUnits", "glyphRef", "gradientTransform", "gradientUnits",
    "kernelMatrix", "kernelUnitLength", "keyPoints", "keySplines", "keyTimes", "lengthAdjust",
    "limitingConeAngle", "markerHeight", "markerUnits", "markerWidth", "maskContentUnits",
    "maskUnits", "numOctaves", "pathLength", "patternContentUnits", "patternTransform",
    "patternUnits", "pointsAtX", "pointsAtY", "pointsAtZ", "preserveAlpha", "preserveAspectRatio",
    "primitiveUnits", "refX", "refY", "repeatCount", "repeatDur", "requiredExtensions",
    "requiredFeatures", "specularConstant", "specularExponent", "spreadMethod", "startOffset",
    "stdDeviation", "stitchTiles", "surfaceScale", "systemLanguage", "tableValues", "targetX",
    "targetY", "textLength", "viewBox", "viewTarget", "xChannelSelector", "yChannelSelector",
    "zoomAndPan"]

/-- The spelling among the given ones of a name in small letters. -/
def respell (names : List String) (name : String) : String :=
  (names.find? fun n => String.ofList (Text.toLowerAscii n.toList) == name).getD name

/-- A tag with the spelling of a vocabulary. -/
def Tag.spelled (t : Tag) : Namespace → Tag
  | .html => t
  | .svg =>
    { t with name := respell svgElementNames t.name,
             attributes := t.attributes.map fun a =>
               { a with name := respell svgAttributeNames a.name } }
  | .math =>
    { t with attributes := t.attributes.map fun a =>
        { a with name := respell ["definitionURL"] a.name } }

end MainContent.Html
