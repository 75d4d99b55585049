import MainContent.Proofs.Text.Lowercase
import MainContent.Settings.Environment

/-!
# The words for an environment

Each environment is known by its name and by a short form of it (`Environment.words`).
`Environment.ofName?_reads` says that exactly these words are understood, in capitals or in small
letters.

A word is compared after it has been put into lower case by the mappings of Unicode. This lets in no
more than the mappings of ASCII would, since none of the words has a `k`
(`Text.toLower_eq_iff_sameButCase`). What is understood has letters of ASCII only, as many as the word.
-/

namespace MainContent.Settings.Environment

open MainContent.Text (SameButCase isLetter)

/-- The words that an environment is known by, in small letters. -/
def words : Environment → List String
  | .development => ["development", "dev"]
  | .production => ["production", "prod"]

/-- No word has anything but small letters, and none of them has a `k`. -/
theorem small_of_mem_words {e : Environment} {word : String} (h : word ∈ e.words) :
    word.toList.all Text.isPlainSmall = true := by
  have hwords : e.words.all (fun word => word.toList.all Text.isPlainSmall) = true := by
    cases e <;> decide
  exact List.all_eq_true.1 hwords word h

/-- A name stands for an environment exactly if its lower case is one of the words. -/
theorem ofName?_eq_some_iff_mem (name : String) (e : Environment) :
    ofName? name = some e ↔ String.ofList (Text.toLower name.toList) ∈ e.words := by
  unfold ofName?
  generalize String.ofList (Text.toLower name.toList) = small
  cases e with
  | development =>
    simp only [words, List.mem_cons, List.not_mem_nil, or_false]
    split_ifs with hdevelopment
    · exact iff_of_true rfl hdevelopment
    · exact iff_of_false nofun hdevelopment
    · exact iff_of_false nofun hdevelopment
  | production =>
    simp only [words, List.mem_cons, List.not_mem_nil, or_false]
    split_ifs with hdevelopment hproduction
    · -- No word stands for both.
      refine iff_of_false nofun ?_
      rcases hdevelopment with rfl | rfl <;> decide
    · exact iff_of_true rfl hproduction
    · exact iff_of_false nofun hproduction

/-- A name stands for an environment exactly if it is one of the words but for case. -/
theorem ofName?_eq_some_iff (name : String) (e : Environment) :
    ofName? name = some e ↔ ∃ word ∈ e.words, SameButCase name.toList word.toList := by
  have hlower (word : String) (hword : word ∈ e.words) :
      String.ofList (Text.toLower name.toList) = word ↔ SameButCase name.toList word.toList := by
    rw [← Text.toLower_eq_iff_sameButCase (small_of_mem_words hword), ← String.toList_inj,
      String.toList_ofList]
  rw [ofName?_eq_some_iff_mem]
  constructor
  · intro hmem
    exact ⟨_, hmem, (hlower _ hmem).1 rfl⟩
  · rintro ⟨word, hword, hsame⟩
    rw [(hlower word hword).2 hsame]
    exact hword

/-- A name stands for development exactly if it is `development` or `dev` but for the case of ASCII
letters, for production exactly if it is `production` or `prod` but for that, and otherwise for nothing.
Whatever else has a lower case, a name that stands for an environment has letters of ASCII only: no
letter of another script, no mark and no blank. -/
theorem ofName?_reads (name : String) :
    (ofName? name = some .development ↔
      SameButCase name.toList "development".toList ∨ SameButCase name.toList "dev".toList) ∧
    (ofName? name = some .production ↔
      SameButCase name.toList "production".toList ∨ SameButCase name.toList "prod".toList) ∧
    (ofName? name = none ↔
      ¬ SameButCase name.toList "development".toList ∧ ¬ SameButCase name.toList "dev".toList ∧
        ¬ SameButCase name.toList "production".toList ∧ ¬ SameButCase name.toList "prod".toList) ∧
    ∀ e, ofName? name = some e → ∀ c ∈ name.toList, isLetter c = true := by
  have hdevelopment : ofName? name = some .development ↔
      SameButCase name.toList "development".toList ∨ SameButCase name.toList "dev".toList := by
    simp only [ofName?_eq_some_iff, words, List.mem_cons, List.not_mem_nil, or_false,
      exists_eq_or_imp, exists_eq_left]
  have hproduction : ofName? name = some .production ↔
      SameButCase name.toList "production".toList ∨ SameButCase name.toList "prod".toList := by
    simp only [ofName?_eq_some_iff, words, List.mem_cons, List.not_mem_nil, or_false,
      exists_eq_or_imp, exists_eq_left]
  refine ⟨hdevelopment, hproduction, ?_, ?_⟩
  · have hnone : ofName? name = none ↔
        ¬ ofName? name = some .development ∧ ¬ ofName? name = some .production := by
      rcases ofName? name with _ | _ | _ <;> simp
    rw [hnone, hdevelopment, hproduction, not_or, not_or, and_assoc]
  · intro e he
    obtain ⟨word, hword, hsame⟩ := (ofName?_eq_some_iff name e).1 he
    have hletters : word.toList.all isLetter = true := by
      refine List.all_eq_true.2 fun d hd => ?_
      have hsmall := List.all_eq_true.1 (small_of_mem_words hword) d hd
      exact (Text.isLetter_iff d).2 (.inl ((Text.isPlainSmall_iff d).1 hsmall).1)
    exact List.all_eq_true.1 (hsame.all_isLetter hletters)

/-- A short form, in capitals and small letters. -/
theorem ofName?_reads_mixed_case :
    ofName? "pRoD" = some .production ∧ ∀ c ∈ "pRoD".toList, isLetter c = true := by
  obtain ⟨-, hproduction, -, hletters⟩ := ofName?_reads "pRoD"
  have hsame : SameButCase "pRoD".toList "prod".toList :=
    (Text.toLowerAscii_eq_toLowerAscii_iff _ _).1 (by decide)
  have hread : ofName? "pRoD" = some .production := hproduction.2 (.inr hsame)
  exact ⟨hread, hletters .production hread⟩

/-- A dotted capital I, which has an `i` in its lower case, and a blank are refused. -/
example : ofName? "PRODUCT\u0130ON" = none ∧ ofName? "dev " = none := by
  decide

end MainContent.Settings.Environment
