/-!
# Words that tell articles from their surroundings

The names of elements, roles and attributes, and the words in classes and identifiers, by which the
parts of a page are judged.
-/

namespace MainContent.Article

/-- The headings. -/
def headings : List String := ["h1", "h2", "h3", "h4", "h5", "h6"]

/-- The elements whose text is scored. -/
def scored : List String :=
  ["section", "h2", "h3", "h4", "h5", "h6", "p", "td", "pre"]

/-- The elements that stand in the line of a text. -/
def phrasing : List String :=
  ["abbr", "audio", "b", "bdo", "br", "button", "cite", "code", "data", "datalist", "dfn", "em",
    "embed", "i", "img", "input", "kbd", "label", "mark", "math", "meter", "noscript", "object",
    "output", "progress", "q", "ruby", "samp", "script", "select", "small", "span", "strong", "sub",
    "sup", "textarea", "time", "var", "wbr"]

/-- The elements that stand in the line of a text if all that they hold does. -/
def transparent : List String := ["a", "del", "ins"]

/-- The elements that keep a division from being a paragraph. -/
def blocks : List String :=
  ["blockquote", "dl", "div", "img", "ol", "p", "pre", "table", "ul"]

/-- The elements whose text counts as text of its own, not as a mere gap between others. -/
def textish : List String := ["span", "li", "td"] ++ blocks

/-- The elements that hold content of another kind. -/
def embeds : List String := ["object", "embed", "iframe"]

/-- The elements that are dropped when they are empty. -/
def droppedEmpty : List String := ["div", "section", "header"] ++ headings

/-- The elements that stay what they are when they are gathered into the article. -/
def keptKinds : List String := ["div", "article", "section", "p", "ol", "ul"]

/-- The roles of parts that are no article. -/
def unlikelyRoles : List String :=
  ["menu", "menubar", "complementary", "navigation", "alert", "alertdialog", "dialog"]

/-- The words of parts that are hardly an article. -/
def unlikelyWords : List String :=
  ["-ad-", "ai2html", "banner", "breadcrumbs", "combx", "comment", "community", "cover-wrap",
    "disqus", "extra", "footer", "gdpr", "header", "legends", "menu", "related", "remark",
    "replies", "rss", "shoutbox", "sidebar", "skyscraper", "social", "sponsor", "supplemental",
    "ad-break", "agegate", "pagination", "pager", "popup", "yom-remote"]

/-- The words of parts that may be an article in spite of other words. -/
def likelyWords : List String :=
  ["and", "article", "body", "column", "content", "main", "mathjax", "shadow"]

/-- The words that speak for a part. -/
def positiveWords : List String :=
  ["article", "body", "content", "entry", "hentry", "h-entry", "main", "page", "pagination", "post",
    "text", "blog", "story"]

/-- The words that speak against a part. -/
def negativeWords : List String :=
  ["-ad-", "hidden", "banner", "combx", "comment", "com-", "contact", "footer", "gdpr", "masthead",
    "media", "meta", "outbrain", "promo", "related", "scroll", "share", "shoutbox", "sidebar",
    "skyscraper", "sponsor", "shopping", "tags", "widget"]

/-- The words of a line that names the author. -/
def bylineWords : List String := ["byline", "author", "dateline", "writtenby", "p-author"]

/-- The words of buttons for sharing. -/
def shareWords : List String := ["share", "sharedaddy"]

/-- The texts, in small letters, that only announce advertising. -/
def advertisingWords : List String :=
  ["ad", "advertising", "advertisement", "pub", "publicité", "werb", "werbung", "广告", "реклама",
    "anuncio"]

/-- The texts, in small letters, that only announce content to come. -/
def loadingWords : List String := ["loading", "正在加载", "загрузка", "chargement", "cargando"]

/-- What may follow a text that announces content to come. -/
def ellipses : List String := ["", "…", "..."]

/-- The attributes that only say how an element looks. -/
def looks : List String :=
  ["align", "background", "bgcolor", "border", "cellpadding", "cellspacing", "frame", "hspace",
    "rules", "style", "valign", "vspace"]

/-- The elements whose width and height only say how they look. -/
def sized : List String := ["table", "th", "td", "hr", "pre"]

/-- The endings of the files of images. -/
def imageEndings : List String := [".jpg", ".jpeg", ".png", ".webp"]

/-- The hosts of videos below `.com`. -/
def videoCompanies : List String :=
  ["dailymotion", "youtube", "youtube-nocookie", "player.vimeo", "v.qq", "bilibili",
    "live.bilibili"]

/-- What the address of a video leads to. -/
def videoHosts : List String :=
  videoCompanies.map (· ++ ".com") ++ ["archive.org", "upload.wikimedia.org", "player.twitch.tv"]

/-- What the address of a video holds. -/
def videoAddresses : List String :=
  videoHosts.flatMap fun host => ["//" ++ host, "//www." ++ host]

/-- The marks that divide the parts of a sentence, in many scripts. -/
def commas : List Char :=
  [',', '\u060C', '\uFE50', '\uFE10', '\uFE11', '\u2E41', '\u2E34', '\u2E32', '\uFF0C']

end MainContent.Article
