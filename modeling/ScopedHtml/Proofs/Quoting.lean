import Mathlib.Tactic.SplitIfs
import ScopedHtml.Proofs.Library
import ScopedHtml.Script.Run

/-!
# ScopedHtml.Proofs.Quoting

**A message that quotes names determines them.** What is quoted can be told from what stands
behind it: it ends at the first quote of its own kind that no backslash announces, and no two
texts are quoted alike (`Text.quotedChars_cancel`). So quoted names that are separated by
commas can be told apart, whatever commas, blanks and quotes they hold themselves
(`Text.quotedList_inj`), and the fault of a builder that is finalized while children are
missing names just those that are (`Caller.missing_determined_by_message`).

Quoting is by characters. Each is written in a way that is no beginning of the way another one
is written (`Text.quotedChar_cancel`):

* for itself — then it is neither the surrounding quote nor a backslash;
* behind a backslash, with a letter that tells how — then the code point, if it follows, has
  as many digits as that letter says (`Text.hexDigits_cancel`).
-/

namespace ScopedHtml

namespace Text

/-! ### Digits -/

theorem digitChar_inj {m n : Nat} (hm : m < 16) (hn : n < 16)
    (h : m.digitChar = n.digitChar) : m = n := by
  have all : ∀ m < 16, ∀ n < 16, m.digitChar = n.digitChar → m = n := by decide
  exact all m hm n hn h

/-- The last digit of a number stands behind those of what is left of it. -/
theorem hexDigits_succ (width n : Nat) :
    hexDigits (width + 2) n = hexDigits (width + 1) (n / 16) ++ [(n % 16).digitChar] := by
  unfold hexDigits
  rw [Nat.toDigits_eq_if (by decide : 1 < 16)]
  split
  · next small =>
    rw [Nat.div_eq_of_lt small, Nat.mod_eq_of_lt small]
    simp [Nat.toDigits_of_lt_base, List.replicate_succ', show Nat.digitChar 0 = '0' from rfl]
  · simp

theorem length_hexDigits {width n : Nat} (fits : (Nat.toDigits 16 n).length ≤ width) :
    (hexDigits width n).length = width := by
  simp [hexDigits, fits]

/-- Without its last digit a number has one digit less. -/
theorem length_toDigits_div {width n : Nat} (fits : (Nat.toDigits 16 n).length ≤ width + 2) :
    (Nat.toDigits 16 (n / 16)).length ≤ width + 1 := by
  rw [Nat.toDigits_eq_if (by decide : 1 < 16)] at fits
  split at fits
  · next small =>
    rw [Nat.div_eq_of_lt small]
    simp
  · simpa using fits

theorem lt_of_length_toDigits {n : Nat} (fits : (Nat.toDigits 16 n).length ≤ 1) : n < 16 := by
  simpa using (Nat.length_toDigits_le_iff (by decide) Nat.one_pos).1 fits

/-- Numbers with the same digits are the same. -/
theorem hexDigits_inj {width m n : Nat} (hm : (Nat.toDigits 16 m).length ≤ width + 1)
    (hn : (Nat.toDigits 16 n).length ≤ width + 1)
    (h : hexDigits (width + 1) m = hexDigits (width + 1) n) : m = n := by
  -- On the number of digits: the last one tells the rest of a division, the others its result.
  induction width generalizing m n with
  | zero =>
      have small := lt_of_length_toDigits hm
      have small' := lt_of_length_toDigits hn
      refine digitChar_inj small small' ?_
      simpa [hexDigits, Nat.toDigits_of_lt_base, small, small'] using h
  | succ width ih =>
      rw [hexDigits_succ, hexDigits_succ] at h
      obtain ⟨front, last⟩ := List.append_inj' h rfl
      have quotient := ih (length_toDigits_div hm) (length_toDigits_div hn) front
      have rest := digitChar_inj (Nat.mod_lt m (by decide)) (Nat.mod_lt n (by decide))
        (List.cons.inj last).1
      omega

theorem hexDigits_cancel {width m n : Nat} (hm : (Nat.toDigits 16 m).length ≤ width + 1)
    (hn : (Nat.toDigits 16 n).length ≤ width + 1) {s t : List Char}
    (h : hexDigits (width + 1) m ++ s = hexDigits (width + 1) n ++ t) : m = n ∧ s = t := by
  obtain ⟨digits, rest⟩ := List.append_inj h (by rw [length_hexDigits hm, length_hexDigits hn])
  exact ⟨hexDigits_inj hm hn digits, rest⟩

/-! ### Characters -/

/-- The letter behind the backslash of an escape, and how many digits behind the first one
follow it. -/
def escapeForm (n : Nat) : Char × Nat :=
  if n < 0x100 then ('x', 1) else if n < 0x10000 then ('u', 3) else ('U', 7)

theorem escaped_eq (n : Nat) :
    escaped n = '\\' :: (escapeForm n).1 :: hexDigits ((escapeForm n).2 + 1) n := by
  unfold escaped escapeForm
  split
  · rfl
  · split <;> rfl

theorem escapeForm_mem (n : Nat) : escapeForm n ∈ [('x', 1), ('u', 3), ('U', 7)] := by
  unfold escapeForm
  split
  · decide
  · split <;> decide

/-- A code point has no more digits than its letter allows. -/
theorem length_of_escapeForm (c : Char) :
    (Nat.toDigits 16 c.toNat).length ≤ (escapeForm c.toNat).2 + 1 := by
  rw [Nat.length_toDigits_le_iff (by decide) (Nat.succ_pos _)]
  unfold escapeForm
  split
  · assumption
  · split
    · assumption
    · exact c.val.toNat_lt

/-- The letter of an escape tells how many digits it has. -/
theorem escapeForm_snd_inj {m n : Nat} (h : (escapeForm m).1 = (escapeForm n).1) :
    (escapeForm m).2 = (escapeForm n).2 := by
  have all : ∀ f ∈ [('x', 1), ('u', 3), ('U', 7)], ∀ g ∈ [('x', 1), ('u', 3), ('U', 7)],
      f.1 = g.1 → f.2 = g.2 := by decide
  exact all _ (escapeForm_mem m) _ (escapeForm_mem n) h

theorem escaped_cancel {c d : Char} {s t : List Char}
    (h : escaped c.toNat ++ s = escaped d.toNat ++ t) : c = d ∧ s = t := by
  rw [escaped_eq, escaped_eq] at h
  obtain ⟨letter, digits⟩ := List.cons.inj (List.cons.inj h).2
  have fits := length_of_escapeForm c
  rw [escapeForm_snd_inj letter] at digits fits
  obtain ⟨code, rest⟩ := hexDigits_cancel fits (length_of_escapeForm d) digits
  exact ⟨Char.toNat_inj.1 code, rest⟩

/-- The two quotes. -/
def quotes : List Char := ['\'', '"']

theorem quoteFor_mem (text : List Char) : quoteFor text ∈ quotes := by
  unfold quoteFor
  split <;> decide

variable {quote : Char}

/-- No character begins as the quote that surrounds it. -/
theorem quotedChar_ne_quote (among : quote ∈ quotes) (c : Char) (s t : List Char) :
    quotedChar quote c ++ s ≠ quote :: t := by
  have escape := escaped_eq c.toNat
  unfold quotes at among
  unfold quotedChar
  split_ifs <;> grind

/-- How a character is written is no beginning of how another one is. -/
theorem quotedChar_cancel (among : quote ∈ quotes) {c d : Char} {s t : List Char}
    (h : quotedChar quote c ++ s = quotedChar quote d ++ t) : c = d ∧ s = t := by
  have first := escaped_eq c.toNat
  have second := escaped_eq d.toNat
  have letter := escapeForm_mem c.toNat
  have letter' := escapeForm_mem d.toNat
  have codes : escaped c.toNat ++ s = escaped d.toNat ++ t → c = d ∧ s = t := escaped_cancel
  unfold quotes at among
  unfold quotedChar at h
  -- Two escapes are told apart by their digits, any two other ways at the second character.
  split_ifs at h <;> grind

/-! ### Texts -/

/-- What is written between quotes ends where the surrounding quote first begins a character. -/
theorem flatMap_quotedChar_cancel (among : quote ∈ quotes) {u v s t : List Char}
    (h : u.flatMap (quotedChar quote) ++ quote :: s =
      v.flatMap (quotedChar quote) ++ quote :: t) : u = v ∧ s = t := by
  -- On the first text. The second one ends with it, since no character begins with the quote.
  induction u generalizing v with
  | nil =>
      cases v with
      | nil => exact ⟨rfl, (List.cons.inj h).2⟩
      | cons d v =>
          rw [List.flatMap_cons, List.append_assoc] at h
          exact absurd h.symm (quotedChar_ne_quote among d _ _)
  | cons c u ih =>
      rw [List.flatMap_cons, List.append_assoc] at h
      cases v with
      | nil => exact absurd h (quotedChar_ne_quote among c _ _)
      | cons d v =>
          rw [List.flatMap_cons, List.append_assoc] at h
          obtain ⟨rfl, others⟩ := quotedChar_cancel among h
          obtain ⟨rfl, rest⟩ := ih others
          exact ⟨rfl, rest⟩

/-- A quoted text can be told from what stands behind it. -/
theorem quotedChars_cancel {u v s t : List Char} (h : quotedChars u ++ s = quotedChars v ++ t) :
    u = v ∧ s = t := by
  have shape (w r : List Char) : quotedChars w ++ r =
      quoteFor w :: (w.flatMap (quotedChar (quoteFor w)) ++ quoteFor w :: r) := by
    simp [quotedChars]
  rw [shape, shape] at h
  obtain ⟨same, others⟩ := List.cons.inj h
  rw [same] at others
  exact flatMap_quotedChar_cancel (quoteFor_mem v) others

/-! ### Lists of texts -/

/-- What stands behind the first of quoted texts. -/
def furtherChars (texts : List (List Char)) : List Char :=
  texts.flatMap fun text => ',' :: ' ' :: quotedChars text

theorem intercalate_quotedChars (text : List Char) (rest : List (List Char)) :
    ", ".toList.intercalate ((text :: rest).map quotedChars) =
      quotedChars text ++ furtherChars rest := by
  induction rest generalizing text with
  | nil => simp [furtherChars]
  | cons next others ih =>
      rw [List.map_cons, List.map_cons, List.intercalate_cons_cons, ← List.map_cons, ih]
      simp [furtherChars]

theorem furtherChars_inj {texts others : List (List Char)}
    (h : furtherChars texts = furtherChars others) : texts = others := by
  induction texts generalizing others with
  | nil =>
      cases others with
      | nil => rfl
      | cons text others => simp [furtherChars] at h
  | cons text texts ih =>
      cases others with
      | nil => simp [furtherChars] at h
      | cons text' others =>
          have quoted : quotedChars text ++ furtherChars texts =
              quotedChars text' ++ furtherChars others := by
            simpa [furtherChars] using h
          obtain ⟨rfl, rest⟩ := quotedChars_cancel quoted
          rw [ih rest]

theorem quotedList_toList (names : List String) :
    (quotedList names).toList =
      ", ".toList.intercalate ((names.map String.toList).map quotedChars) := by
  simp [quotedList, quoted, String.toList_intercalate, Function.comp_def]

/-- Quoted texts that are separated by commas can be told apart. -/
theorem quotedList_inj {names others : List String} (h : quotedList names = quotedList others) :
    names = others := by
  have chars := congrArg String.toList h
  rw [quotedList_toList, quotedList_toList] at chars
  refine (List.map_inj_right fun _ _ => String.toList_inj.1).1 ?_
  cases names with
  | nil =>
      cases others with
      | nil => rfl
      | cons name others =>
          rw [List.map_cons, intercalate_quotedChars] at chars
          simp [quotedChars] at chars
  | cons name names =>
      rw [List.map_cons, intercalate_quotedChars] at chars
      cases others with
      | nil => simp [quotedChars] at chars
      | cons other others =>
          rw [List.map_cons, intercalate_quotedChars] at chars
          obtain ⟨first, rest⟩ := quotedChars_cancel chars
          rw [List.map_cons, List.map_cons, first, furtherChars_inj rest]

end Text

/-! ### Messages -/

/-- The message about missing children quotes their names. -/
theorem Fault.message_missingChildren (builder : String) (names : List String) :
    (Fault.missingChildren builder (Value.texts names)).message =
      builder ++ " cannot be built: missing required " ++ Text.quotedList names := by
  have quoted : (Value.texts names).map Value.quoted = names.map Text.quoted := by
    simp [Value.texts, Function.comp_def]
  rw [Text.quotedList, ← quoted]
  rfl

open BuildM

variable {ρ : Type}

namespace Caller

variable {call call' : Caller ρ} {b c : BuilderRef} {s t u v : Session ρ}
  {names others : List String}

/-- **A message about missing children determines them.** Let two builders, of one program or
of two and at whatever depth of calls, answer what is missing of them, and let it be
something. Then neither can be finalized. The message about it holds the name of the class and
the missing names, each between quotes, separated by commas. If the classes have the same name,
the messages are the same just if the same names are missing, in the same order. -/
theorem missing_determined_by_message
    (asked : call.own b "missing" s = .ok (.list (Value.texts names)) u)
    (asked' : call'.own c "missing" t = .ok (.list (Value.texts others)) v)
    (some : names ≠ []) (some' : others ≠ [])
    (same : u.store.className b = v.store.className c) :
    ∃ fault fault', call.build b s = .error fault u ∧ call'.build c t = .error fault' v ∧
      fault.message = u.store.className b ++ " cannot be built: missing required " ++
        Text.quotedList names ∧
      fault'.message = v.store.className c ++ " cannot be built: missing required " ++
        Text.quotedList others ∧
      (fault.message = fault'.message ↔ names = others) := by
  refine ⟨_, _, build_of_asked asked some, build_of_asked asked' some',
    Fault.message_missingChildren _ names, Fault.message_missingChildren _ others, ?_⟩
  constructor
  · intro messages
    rw [Fault.message_missingChildren, Fault.message_missingChildren, same] at messages
    exact Text.quotedList_inj ((String.append_right_inj _).1 messages)
  · rintro rfl
    rw [same]

end Caller

namespace Script

/-- The session in which a builder has been made of a class of cards that requires names. -/
def cardRequiring (names : List String) : Session Names :=
  left (runTop 0 [.define "Card" ["HeadBuilder"] { slots := names, required := some names },
    .new "c" "Card" []]) start

/-- One name that holds apostrophes, a comma and a blank, and the two names that it looks like. -/
theorem missing_determined_by_message_apostrophes :
    BuilderRef.callOwn ⟨0⟩ "missing" (cardRequiring ["a', 'b"]) =
        .ok (.list (Value.texts ["a', 'b"])) (cardRequiring ["a', 'b"]) ∧
      BuilderRef.callOwn ⟨0⟩ "missing" (cardRequiring ["a", "b"]) =
        .ok (.list (Value.texts ["a", "b"])) (cardRequiring ["a", "b"]) ∧
      ∃ fault fault', BuilderRef.build ⟨0⟩ (cardRequiring ["a', 'b"]) =
          .error fault (cardRequiring ["a', 'b"]) ∧
        BuilderRef.build ⟨0⟩ (cardRequiring ["a", "b"]) =
          .error fault' (cardRequiring ["a", "b"]) ∧
        fault.message = "Card cannot be built: missing required \"a', 'b\"" ∧
        fault'.message = "Card cannot be built: missing required 'a', 'b'" ∧
        fault.message ≠ fault'.message := by
  have one : BuilderRef.callOwn ⟨0⟩ "missing" (cardRequiring ["a', 'b"]) =
      .ok (.list (Value.texts ["a', 'b"])) (cardRequiring ["a', 'b"]) := by rfl
  have two : BuilderRef.callOwn ⟨0⟩ "missing" (cardRequiring ["a", "b"]) =
      .ok (.list (Value.texts ["a", "b"])) (cardRequiring ["a", "b"]) := by rfl
  have class_ : (cardRequiring ["a', 'b"]).store.className ⟨0⟩ =
      (cardRequiring ["a", "b"]).store.className ⟨0⟩ := by decide +kernel
  obtain ⟨fault, fault', failed, failed', message, message', same⟩ :=
    Caller.missing_determined_by_message one two (by decide) (by decide) class_
  refine ⟨one, two, fault, fault', failed, failed', ?_, ?_, ?_⟩
  · rw [message]
    decide +kernel
  · rw [message']
    decide +kernel
  · rw [ne_eq, same]
    decide

end Script

end ScopedHtml
