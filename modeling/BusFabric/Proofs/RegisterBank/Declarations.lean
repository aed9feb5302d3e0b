import BusFabric.Proofs.Bridge.Translation
import BusFabric.Proofs.Text.Numerals
import BusFabric.RegisterBank.Text
import Mathlib.Data.List.TakeWhile

set_option autoImplicit false

namespace BusFabric.RegisterBank

open Text (IsNumber Style)

variable {mark : Char} {text head rest : List Char}

/-- A text without the mark stays whole. -/
theorem splitAt_of_not_mem (absent : mark ∉ text) : splitAt mark text = (text, none) := by
  unfold splitAt
  have before : ∀ c ∈ text, decide (c ≠ mark) = true := fun c member =>
    decide_eq_true fun same => absent (same ▸ member)
  rw [List.dropWhile_eq_nil_iff.mpr before]

/-- A text is cut at the first mark, which is in neither part. -/
theorem splitAt_append (absent : mark ∉ head) (rest : List Char) :
    splitAt mark (head ++ mark :: rest) = (head, some rest) := by
  have before : ∀ c ∈ head, decide (c ≠ mark) = true := fun c member =>
    decide_eq_true fun same => absent (same ▸ member)
  unfold splitAt
  rw [List.dropWhile_append_of_pos before, List.dropWhile_cons_of_neg (by simp)]
  dsimp only
  rw [List.takeWhile_append_of_pos before, List.takeWhile_cons_of_neg (by simp), List.append_nil]

/-- The two ways in which a text can be cut. -/
theorem splitAt_cases (mark : Char) (text : List Char) :
    (mark ∉ text ∧ splitAt mark text = (text, none)) ∨
      ∃ head rest, text = head ++ mark :: rest ∧ mark ∉ head ∧
        splitAt mark text = (head, some rest) := by
  by_cases member : mark ∈ text
  · obtain ⟨head, rest, rfl, absent⟩ := List.eq_append_cons_of_mem member
    exact .inr ⟨head, rest, rfl, absent, splitAt_append absent rest⟩
  · exact .inl ⟨member, splitAt_of_not_mem member⟩

/-- A name of a bank: at least one character, and none of the marks. -/
structure IsName (name : List Char) : Prop where
  nonempty : name ≠ []
  unmarked : '@' ∉ name ∧ ':' ∉ name

/-- The texts that declare a bank: its name, then its index after `@`, then its number of words
after `:`. Either may be left out; a bank whose words are not counted has one. -/
inductive Declares : List Char → Declaration → Prop
  | name {name : List Char} (named : IsName name) :
      Declares name ⟨String.ofList name, none, .memory 1⟩
  | index {name place : List Char} {index : Nat} (named : IsName name)
      (placed : IsNumber place index) :
      Declares (name ++ '@' :: place) ⟨String.ofList name, some index, .memory 1⟩
  | words {name count : List Char} {words : Nat} (named : IsName name)
      (counted : IsNumber count words) :
      Declares (name ++ ':' :: count) ⟨String.ofList name, none, .memory words⟩
  | indexWords {name place count : List Char} {index words : Nat} (named : IsName name)
      (placed : IsNumber place index) (counted : IsNumber count words) :
      Declares (name ++ '@' :: place ++ ':' :: count)
        ⟨String.ofList name, some index, .memory words⟩

theorem mapM_number_eq_ok_iff {place : Option (List Char)} {number : Option Nat}
    (wrong : List Char → Text.NumberError → DeclarationError) :
    (place.mapM fun text => (Text.number text).mapError (wrong text)) = .ok number ↔
      Option.Rel IsNumber place number := by
  cases place with
  | none =>
    constructor
    · intro read
      cases read
      exact .none
    · intro absent
      cases absent
      rfl
  | some text =>
    rw [Option.mapM_some]
    cases read : Text.number text with
    | error error =>
      refine iff_of_false nofun ?_
      intro present
      cases present with
      | some counts =>
        rw [(Text.number_eq_ok_iff text).mpr counts] at read
        cases read
    | ok value =>
      have counts := (Text.number_eq_ok_iff text).mp read
      constructor
      · intro same
        cases same
        exact .some counts
      · intro present
        cases present with
        | some others =>
          rw [(Text.number_eq_ok_iff text).mpr others] at read
          cases read
          rfl

/-- A text is read part by part: what is behind the first `:`, then what is behind the first `@` in
front of it, then the name. -/
theorem ofText_eq_ok_iff_parts (text : List Char) (declaration : Declaration) :
    Declaration.ofText text = .ok declaration ↔
      ∃ words index, Option.Rel IsNumber (splitAt ':' text).2 words ∧
        Option.Rel IsNumber (splitAt '@' (splitAt ':' text).1).2 index ∧
        (splitAt '@' (splitAt ':' text).1).1 ≠ [] ∧
        declaration = ⟨String.ofList (splitAt '@' (splitAt ':' text).1).1, index,
          .memory (words.getD 1)⟩ := by
  unfold Declaration.ofText
  dsimp only
  rw [Except.bind_eq_ok]
  apply exists_congr
  intro words
  rw [mapM_number_eq_ok_iff, Except.bind_eq_ok, ← exists_and_left]
  apply exists_congr
  intro index
  rw [mapM_number_eq_ok_iff]
  simp only [List.isEmpty_iff]
  split
  · rename_i unnamed
    simp only [reduceCtorEq, and_false, unnamed, ne_eq, not_true, false_and]
  · rename_i named
    simp only [Except.ok.injEq, named, ne_eq, not_false_eq_true, true_and, eq_comm]

/-- Reading accepts the declarations and no other text, and gives the bank that is declared. -/
theorem ofText_eq_ok_iff (text : List Char) (declaration : Declaration) :
    Declaration.ofText text = .ok declaration ↔ Declares text declaration := by
  rw [ofText_eq_ok_iff_parts]
  constructor
  · rintro ⟨words, index, counted, placed, named, rfl⟩
    rcases splitAt_cases ':' text with ⟨noCount, whole⟩ | ⟨head, count, rfl, noCount, cut⟩
    · rw [whole] at counted placed named ⊢
      cases counted
      rcases splitAt_cases '@' text with ⟨noPlace, single⟩ | ⟨name, place, rfl, noPlace, parts⟩
      · rw [single] at placed named ⊢
        cases placed
        exact .name ⟨named, noPlace, noCount⟩
      · rw [parts] at placed named ⊢
        cases placed with
        | some placed =>
          exact .index ⟨named, noPlace, fun mark => noCount (List.mem_append_left _ mark)⟩ placed
    · rw [cut] at counted placed named ⊢
      cases counted with
      | some counted =>
        rcases splitAt_cases '@' head with ⟨noPlace, single⟩ | ⟨name, place, rfl, noPlace, parts⟩
        · rw [single] at placed named ⊢
          cases placed
          exact .words ⟨named, noPlace, noCount⟩ counted
        · rw [parts] at placed named ⊢
          cases placed with
          | some placed =>
            exact .indexWords
              ⟨named, noPlace, fun mark => noCount (List.mem_append_left _ mark)⟩ placed counted
  · -- A number has no `:` in it, so the first one is in front of the word count.
    have apart {name place : List Char} {index : Nat} (named : IsName name)
        (placed : IsNumber place index) : ':' ∉ name ++ '@' :: place := by
      intro mark
      rcases List.mem_append.mp mark with before | behind
      · exact named.unmarked.2 before
      · rcases List.mem_cons.mp behind with same | later
        · cases same
        · exact placed.not_mem (by decide) (by decide) (by decide) later
    intro declares
    cases declares with
    | name named =>
      rw [splitAt_of_not_mem named.unmarked.2, splitAt_of_not_mem named.unmarked.1]
      exact ⟨none, none, .none, .none, named.nonempty, rfl⟩
    | index named placed =>
      rw [splitAt_of_not_mem (apart named placed), splitAt_append named.unmarked.1]
      exact ⟨none, _, .none, .some placed, named.nonempty, rfl⟩
    | words named counted =>
      rw [splitAt_append named.unmarked.2, splitAt_of_not_mem named.unmarked.1]
      exact ⟨_, none, .some counted, .none, named.nonempty, rfl⟩
    | indexWords named placed counted =>
      rw [splitAt_append (apart named placed), splitAt_append named.unmarked.1]
      exact ⟨_, _, .some counted, .some placed, named.nonempty, rfl⟩

/-- A field of a declaration behind its mark, or nothing where it is left out. -/
def writeField (mark : Char) : Option (Style × BitVec 64) → List Char
  | none => []
  | some (style, number) => mark :: style.write number

/-- A declaration as it may be written, each number in a style of its own. -/
def write (name : List Char) (index words : Option (Style × BitVec 64)) : List Char :=
  name ++ writeField '@' index ++ writeField ':' words

def written (name : List Char) (index words : Option (Style × BitVec 64)) : Declaration :=
  ⟨String.ofList name, index.map (·.2.toNat), .memory (words.elim 1 (·.2.toNat))⟩

theorem declares_write {name : List Char} (named : IsName name)
    (index words : Option (Style × BitVec 64)) :
    Declares (write name index words) (written name index words) := by
  unfold write
  cases index with
  | none =>
    rw [writeField, List.append_nil]
    cases words with
    | none =>
      rw [writeField, List.append_nil]
      exact .name named
    | some count => exact .words named (Text.isNumber_write count.1 count.2)
  | some place =>
    have placed := Text.isNumber_write place.1 place.2
    cases words with
    | none =>
      rw [writeField, writeField, List.append_nil]
      exact .index named placed
    | some count => exact .indexWords named placed (Text.isNumber_write count.1 count.2)

/-- A text is read as the declaration that it states, with its name, index and number of words, and
refused if it states none. In particular a declaration is read back however its numbers are
written. -/
theorem texts_declare_banks :
    (∀ (text : List Char) (declaration : Declaration),
      Declaration.ofText text = .ok declaration ↔ Declares text declaration) ∧
    ∀ name : List Char, IsName name → ∀ index words : Option (Style × BitVec 64),
      Declaration.ofText (write name index words) = .ok (written name index words) :=
  ⟨ofText_eq_ok_iff, fun _ named index words =>
    (ofText_eq_ok_iff _ _).mpr (declares_write named index words)⟩

/-- A bank of sixteen words, counted in hexadecimal, at index 3. -/
theorem timer_is_read_back :
    IsName "timer".toList ∧
      Declaration.ofText "timer@3:0x10".toList = .ok ⟨"timer", some 3, .memory 16⟩ :=
  have named : IsName "timer".toList := ⟨by decide, by decide⟩
  ⟨named, texts_declare_banks.2 _ named (some (.decimal, 3)) (some (.hexadecimal, 16))⟩

end BusFabric.RegisterBank
