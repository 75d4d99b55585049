/-!
# Settings of fetches

The limits within which a page is fetched and read, with their usual values, and the text in which
a span of time is shown.
-/

namespace MainContent.Settings

/-- A span of time, in milliseconds. -/
structure Duration where
  /-- The number of milliseconds. -/
  milliseconds : Nat
  deriving DecidableEq, Repr

namespace Duration

/-- A span of whole seconds. -/
def ofSeconds (n : Nat) : Duration :=
  ⟨n * 1000⟩

/-- The whole seconds in a span. -/
def seconds (d : Duration) : Nat :=
  d.milliseconds / 1000

/-- The digits behind the decimal point for a number of thousandths, without zeros at the end. -/
def fraction (thousandths : Nat) : String :=
  if thousandths = 0 then ""
  else if thousandths % 100 = 0 then "." ++ Nat.repr (thousandths / 100)
  else if thousandths % 10 = 0 then
    "." ++ (if thousandths < 100 then "0" else "") ++ Nat.repr (thousandths / 10)
  else
    "." ++ (if thousandths < 10 then "00" else if thousandths < 100 then "0" else "") ++
      Nat.repr thousandths

/-- A span in its largest unit: seconds with their fraction, whole milliseconds below one second,
and `0ns` for no time at all. -/
def shown (d : Duration) : String :=
  if 1000 ≤ d.milliseconds then
    Nat.repr d.seconds ++ fraction (d.milliseconds % 1000) ++ "s"
  else if 0 < d.milliseconds then Nat.repr d.milliseconds ++ "ms"
  else "0ns"

end Duration

/-- The limits within which a page is fetched and read. -/
structure Fetch where
  /-- The time in which a connection must stand. -/
  connectTimeout : Duration := .ofSeconds 5
  /-- The time in which the whole page must have arrived. -/
  timeout : Duration := .ofSeconds 30
  /-- The most bytes that a page may have. -/
  maxPageSize : Nat := 5242880
  /-- The most redirects that are followed. -/
  maxRedirects : Nat := 10
  /-- The most elements that a document may have; zero stands for no limit. -/
  maxElements : Nat := 0
  /-- The name that the service gives itself towards other sites. -/
  userAgent : String := "article-extractor/0.1.0"
  deriving DecidableEq, Repr

end MainContent.Settings
