import MainContent.Proofs.Failure
import MainContent.Proofs.Text.Numeral

/-!
# What a caller reads off the line of a failure

Every failure reaches the caller as one line of text. `Failure.ofLine?` reads such a line, and
`Failure.ofLine?_eq_some_iff` says that it reads exactly the lines that failures have, each as its own
failure. So no two failures have one line, whatever texts and numbers they carry, and the kind of a
failure can be told from its line (`Failure.line_eq_iff`).

A wording is the opening of its form, which is the same for all failures of that form, and then what
the failure carries (`Failure.message_eq`). No opening begins another one (`Form.apart`), so the form
can be read first, before anything is known of the rest; a text from the network that imitates an
opening stands behind the real one. What remains is to read each detail back by itself.
-/

namespace MainContent

/-! ## Causes -/

/-- The causes for which a text is no URL. -/
def Url.Error.all : List Url.Error :=
  [.emptyHost, .domainName, .port, .ipv4, .ipv6, .domainCharacter, .relativeWithoutBase,
    .relativeToFixedPath, .hostOnFixedPath, .tooLong]

/-- The cause with a wording. -/
def Url.Error.ofMessage? (wording : String) : Option Url.Error :=
  all.find? fun cause => cause.message == wording

/-- A cause is read back from its wording. -/
theorem Url.Error.ofMessage?_message (cause : Url.Error) :
    ofMessage? cause.message = some cause := by
  cases cause <;> decide

namespace Failure

/-! ## Forms -/

/-- The forms of failures, without what a failure carries. -/
inductive Form where
  | invalidAuthKey
  | missingUrl
  | invalidUrl
  | unsupportedScheme
  | timeout
  | fetch
  | siteStatus
  | pageTooLarge
  | extraction
  deriving DecidableEq

namespace Form

/-- All forms. -/
def all : List Form :=
  [.invalidAuthKey, .missingUrl, .invalidUrl, .unsupportedScheme, .timeout, .fetch, .siteStatus,
    .pageTooLarge, .extraction]

theorem mem_all (form : Form) : form ∈ all := by
  cases form <;> decide

/-- What the wording of every failure of a form begins with. -/
def opening : Form → List Char
  | .invalidAuthKey => "Invalid auth key.".toList
  | .missingUrl => "Missing url parameter".toList
  | .invalidUrl => "Invalid URL: ".toList
  | .unsupportedScheme => "Unsupported URL scheme: ".toList
  | .timeout => "Fetch timed out: ".toList
  | .fetch => "Fetch failed: ".toList
  | .siteStatus => "Upstream returned ".toList
  | .pageTooLarge => "Page exceeds ".toList
  | .extraction => "Extraction failed: ".toList

/-- No opening begins another one. -/
theorem apart : ∀ form ∈ all, ∀ other ∈ all, form.opening <+: other.opening → form = other := by
  decide

/-- The form whose opening a wording begins with. -/
def ofWording? (wording : List Char) : Option Form :=
  all.find? fun form => form.opening.isPrefixOf wording

/-- The form is read off the opening, whatever follows it. -/
theorem ofWording?_append (form : Form) (detail : List Char) :
    ofWording? (form.opening ++ detail) = some form := by
  have hbegins : form.opening.isPrefixOf (form.opening ++ detail) = true :=
    List.isPrefixOf_iff_prefix.2 (List.prefix_append _ _)
  obtain ⟨found, hfound⟩ : ∃ found, ofWording? (form.opening ++ detail) = some found := by
    rw [← Option.isSome_iff_exists, ofWording?, List.find?_isSome]
    exact ⟨form, mem_all form, hbegins⟩
  have hprefix : found.opening <+: form.opening ++ detail := by
    have hopening := List.find?_some hfound
    exact List.isPrefixOf_iff_prefix.1 hopening
  -- Both openings begin one text, so the shorter of them begins the other one.
  have hsame : found = form := by
    rcases List.prefix_or_prefix_of_prefix hprefix (List.prefix_append _ _) with h | h
    · exact apart found (mem_all found) form (mem_all form) h
    · exact (apart form (mem_all form) found (mem_all found) h).symm
  rw [hfound, hsame]

end Form

/-- The form of a failure. -/
def form : Failure → Form
  | .invalidAuthKey => .invalidAuthKey
  | .missingUrl => .missingUrl
  | .invalidUrl _ => .invalidUrl
  | .unsupportedScheme _ => .unsupportedScheme
  | .timeout _ => .timeout
  | .fetch _ => .fetch
  | .siteStatus _ => .siteStatus
  | .pageTooLarge _ => .pageTooLarge
  | .extraction _ => .extraction

/-! ## Details -/

/-- What stands behind the opening in the wording of a failure. -/
def detail : Failure → List Char
  | .invalidAuthKey | .missingUrl => []
  | .invalidUrl cause => cause.message.toList
  | .unsupportedScheme text | .timeout text | .fetch text | .extraction text => text.toList
  | .siteStatus status => Nat.toDigits 10 status
  | .pageTooLarge limit => Nat.toDigits 10 limit ++ " bytes".toList

/-- A wording is the opening of its form, and then the detail. -/
theorem message_eq (f : Failure) : f.message.toList = f.form.opening ++ f.detail := by
  cases f with
  | invalidAuthKey | missingUrl =>
    rw [form, detail, List.append_nil]
    rfl
  | invalidUrl | unsupportedScheme | timeout | fetch | extraction => exact String.toList_append
  | siteStatus status =>
    show ("Upstream returned " ++ Nat.repr status).toList = _
    rw [String.toList_append, Nat.toList_repr]
    rfl
  | pageTooLarge limit =>
    show ("Page exceeds " ++ Nat.repr limit ++ " bytes").toList = _
    rw [String.toList_append, String.toList_append, Nat.toList_repr, List.append_assoc]
    rfl

/-- The number that a text begins with. -/
def leadingNumber (text : List Char) : Nat :=
  Text.Numeral.valueOnto 0 (text.takeWhile Text.isDigit)

/-- A number is read back where something else than a digit follows it, or nothing. -/
theorem leadingNumber_toDigits (n : Nat) (rest : List Char)
    (hrest : rest.takeWhile Text.isDigit = []) :
    leadingNumber (Nat.toDigits 10 n ++ rest) = n := by
  have hdigits : ∀ c ∈ Nat.toDigits 10 n, Text.isDigit c = true :=
    fun _ hc => Text.Numeral.isDigit_of_mem_toDigits hc
  rw [leadingNumber, List.takeWhile_append_of_pos hdigits, hrest, List.append_nil,
    Text.Numeral.valueOnto_toDigits]

/-- The failure of a form with a detail. A detail that no failure of the form has may be read as
any of them, or as none. -/
def ofDetail? : Form → List Char → Option Failure
  | .invalidAuthKey, _ => some .invalidAuthKey
  | .missingUrl, _ => some .missingUrl
  | .invalidUrl, detail => (Url.Error.ofMessage? (String.ofList detail)).map .invalidUrl
  | .unsupportedScheme, detail => some (.unsupportedScheme (String.ofList detail))
  | .timeout, detail => some (.timeout (String.ofList detail))
  | .fetch, detail => some (.fetch (String.ofList detail))
  | .siteStatus, detail => some (.siteStatus (leadingNumber detail))
  | .pageTooLarge, detail => some (.pageTooLarge (leadingNumber detail))
  | .extraction, detail => some (.extraction (String.ofList detail))

/-- A failure is read back from its form and its detail. -/
theorem ofDetail?_detail (f : Failure) : ofDetail? f.form f.detail = some f := by
  cases f with
  | invalidAuthKey => rfl
  | missingUrl => rfl
  | invalidUrl cause =>
    show (Url.Error.ofMessage? (String.ofList cause.message.toList)).map Failure.invalidUrl = _
    rw [String.ofList_toList, Url.Error.ofMessage?_message, Option.map_some]
  | unsupportedScheme text => exact congrArg (some ∘ Failure.unsupportedScheme) String.ofList_toList
  | timeout text => exact congrArg (some ∘ Failure.timeout) String.ofList_toList
  | fetch text => exact congrArg (some ∘ Failure.fetch) String.ofList_toList
  | siteStatus status =>
    have hnumber := leadingNumber_toDigits status [] rfl
    rw [List.append_nil] at hnumber
    exact congrArg (some ∘ Failure.siteStatus) hnumber
  | pageTooLarge limit =>
    -- The blank before the unit ends the number.
    have hnumber := leadingNumber_toDigits limit " bytes".toList (by decide)
    exact congrArg (some ∘ Failure.pageTooLarge) hnumber
  | extraction text => exact congrArg (some ∘ Failure.extraction) String.ofList_toList

/-! ## Lines -/

/-- The failure that a line tells of, if it is the line of one. -/
def ofLine? (text : String) : Option Failure :=
  let wording := text.toList.drop marker.toList.length
  ((Form.ofWording? wording).bind fun form =>
    ofDetail? form (wording.drop form.opening.length)).filter (·.line == text)

/-- A text tells of a failure exactly if it is the line of that failure. -/
theorem ofLine?_eq_some_iff (text : String) (f : Failure) : ofLine? text = some f ↔ text = f.line := by
  constructor
  · intro h
    have hline : (f.line == text) = true := (Option.filter_eq_some_iff.1 h).2
    exact (beq_iff_eq.1 hline).symm
  · rintro rfl
    have hwording : f.line.toList.drop marker.toList.length = f.form.opening ++ f.detail := by
      rw [line, String.toList_append, List.drop_left, message_eq]
    unfold ofLine?
    dsimp only
    rw [hwording, Form.ofWording?_append, Option.bind_some, List.drop_left, ofDetail?_detail]
    exact Option.filter_eq_some_iff.2 ⟨rfl, beq_self_eq_true _⟩

/-- The line of a failure identifies it: only that failure has the line, and whoever reads the line
learns what has failed, and of which kind it is. -/
theorem line_eq_iff (f g : Failure) :
    (f.line = g.line ↔ f = g) ∧ ofLine? f.line = some f ∧
      (ofLine? f.line).map kind = some f.kind := by
  have hread : ofLine? f.line = some f := (ofLine?_eq_some_iff f.line f).2 rfl
  refine ⟨⟨fun hlines => ?_, congrArg line⟩, hread, ?_⟩
  · have hother : ofLine? f.line = some g := (ofLine?_eq_some_iff f.line g).2 hlines
    exact Option.some.inj (hread.symm.trans hother)
  · rw [hread, Option.map_some]

/-- A failure that quotes the line of another one is still told from it. -/
example : ofLine? (Failure.fetch (Failure.siteStatus 404).line).line =
    some (.fetch "ERROR: Upstream returned 404") := by
  decide +kernel

end Failure

end MainContent
