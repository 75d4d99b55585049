import MainContent.Article.Label
import MainContent.Text.Numeral

/-!
# Tables of data

A table can hold data, or it can only lay out a page. What its attributes and parts do not tell is
judged by its size.
-/

namespace MainContent.Article

open Html (Dom NodeId)

/-- How many rows or columns a row or a cell spans. -/
def span (d : Dom) (i : NodeId) (name : String) : Nat :=
  let digits := ((valueOf d i name).dropWhile Text.isBlank).takeWhile Text.isDigit
  max 1 (Text.Numeral.valueOnto 0 digits)

/-- The number of rows of a table. -/
def rowCount (d : Dom) (table : NodeId) : Nat :=
  (d.named table ["tr"]).foldl (fun n row => n + span d row "rowspan") 0

/-- The number of columns that a row has. -/
def columnsOf (d : Dom) (row : NodeId) : Nat :=
  (d.named row ["td"]).foldl (fun n cell => n + span d cell "colspan") 0

/-- The number of columns of a table, that of its longest row. -/
def columnCount (d : Dom) (table : NodeId) : Nat :=
  (d.named table ["tr"]).foldl (fun n row => max n (columnsOf d row)) 0

/-- The parts that only a table of data has. -/
def dataParts : List String := ["col", "colgroup", "tfoot", "thead", "th"]

/-- Whether a table is large enough for data. -/
def hasDataSize (rows columns : Nat) : Bool :=
  rows != 1 && columns != 1 && (10 ≤ rows || 4 < columns || 10 < rows * columns)

/-- Whether a table holds data. -/
def isDataTable (d : Dom) (table : NodeId) : Bool :=
  let caption? := (d.named table ["caption"]).head?
  if d.attribute? table "role" == some "presentation" then false
  else if d.attribute? table "datatable" == some "0" then false
  else if !(valueOf d table "summary").isEmpty then true
  else if caption?.any fun c => !(d.children c).isEmpty then true
  else if !(d.named table dataParts).isEmpty then true
  else if !(d.named table ["table"]).isEmpty then false
  else hasDataSize (rowCount d table) (columnCount d table)

/-- The tables of data in an element. -/
def dataTables (d : Dom) (i : NodeId) : List NodeId :=
  (d.named i ["table"]).filter (isDataTable d)

end MainContent.Article
