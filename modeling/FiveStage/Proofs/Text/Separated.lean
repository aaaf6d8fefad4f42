import FiveStage.Text.Layout
import Mathlib

/-!
# Texts that can be taken apart

Numbers can be read back from their texts, and so can the items of a list that is written with
commas, if no item contains one.
-/

namespace FiveStage.Text

/-! ## Numbers -/

theorem digitChar_injective : ∀ m < 16, ∀ n < 16, Nat.digitChar m = Nat.digitChar n → m = n := by
  decide

theorem append_digit_ne (n : Nat) (c d : Char) : Nat.toDigits 16 n ++ [c] ≠ [d] := by
  intro single
  have longer := congrArg List.length single
  simp at longer

/-- No two numbers have the same hexadecimal digits. -/
theorem toDigits_injective {m n : Nat} (same : Nat.toDigits 16 m = Nat.toDigits 16 n) : m = n := by
  induction m using Nat.strong_induction_on generalizing n with
  | _ m ih =>
    rw [Nat.toDigits_eq_if (n := m) (by decide), Nat.toDigits_eq_if (n := n) (by decide)] at same
    by_cases small : m < 16 <;> by_cases small' : n < 16
    · rw [if_pos small, if_pos small'] at same
      exact digitChar_injective m small n small' (List.singleton_inj.mp same)
    · rw [if_pos small, if_neg small'] at same
      exact absurd same.symm (append_digit_ne _ _ _)
    · rw [if_neg small, if_pos small'] at same
      exact absurd same (append_digit_ne _ _ _)
    · rw [if_neg small, if_neg small'] at same
      obtain ⟨high, low⟩ := List.append_inj' same rfl
      have quotient : m / 16 = n / 16 := ih _ (Nat.div_lt_self (by omega) (by decide)) high
      have remainder : m % 16 = n % 16 :=
        digitChar_injective _ (Nat.mod_lt _ (by decide)) _ (Nat.mod_lt _ (by decide))
          (List.singleton_inj.mp low)
      omega

theorem hex_injective {m n : Nat} (same : hex m = hex n) : m = n :=
  toDigits_injective (String.ofList_inj.mp ((String.append_right_inj "0x").mp same))

/-! ## Separators -/

/-- No digits of a number contain a character that is no digit. -/
theorem notMem_toDigits {base : Nat} (large : 1 < base) {c : Char}
    (other : ∀ k, Nat.digitChar k ≠ c) (n : Nat) : c ∉ base.toDigits n := by
  induction n using Nat.strong_induction_on with
  | _ n ih =>
    rw [Nat.toDigits_eq_if large]
    split
    · simp [(other _).symm]
    · simp [(other _).symm, ih (n / base) (Nat.div_lt_self (by omega) large)]

/-- The text contains none of the characters that stand around operands. -/
def Plain (s : String) : Prop :=
  ',' ∉ s.toList ∧ '(' ∉ s.toList

instance (s : String) : Decidable (Plain s) :=
  inferInstanceAs (Decidable (_ ∧ _))

theorem Plain.append {s t : String} (first : Plain s) (second : Plain t) : Plain (s ++ t) := by
  unfold Plain
  rw [String.toList_append, List.mem_append, List.mem_append, not_or, not_or]
  exact ⟨⟨first.1, second.1⟩, first.2, second.2⟩

theorem plain_toDigits {base : Nat} (large : 1 < base) (n : Nat) :
    Plain (String.ofList (base.toDigits n)) := by
  unfold Plain
  rw [String.toList_ofList]
  exact ⟨notMem_toDigits large (fun _ => Nat.digitChar_ne _ rfl) n,
    notMem_toDigits large (fun _ => Nat.digitChar_ne _ rfl) n⟩

theorem plain_hex (n : Nat) : Plain (hex n) :=
  Plain.append (by decide) (plain_toDigits (by decide) n)

theorem plain_nat (n : Nat) : Plain (toString n) :=
  plain_toDigits (by decide) n

theorem plain_int (n : Int) : Plain (toString n) := by
  cases n with
  | ofNat n => exact plain_nat n
  | negSucc n => exact Plain.append (by decide) (plain_nat (n + 1))

theorem bne_of_notMem {c : Char} {text : List Char} (without : c ∉ text) :
    ∀ d ∈ text, (d != c) = true := by
  intro d inside
  refine bne_iff_ne.mpr ?_
  rintro rfl
  exact without inside

theorem takeWhile_of_notMem {c : Char} {text : List Char} (without : c ∉ text) :
    text.takeWhile (· != c) = text :=
  List.takeWhile_eq_self_iff.mpr (bne_of_notMem without)

/-- What stands before a character can be told from what comes after, if the character is not in
it. -/
theorem takeWhile_append {c : Char} {before : List Char} (without : c ∉ before)
    (rest : List Char) : (before ++ c :: rest).takeWhile (· != c) = before := by
  rw [List.takeWhile_append_of_pos (bne_of_notMem without)]
  simp

theorem append_inj_of_notMem {c : Char} {before before' rest rest' : List Char}
    (without : c ∉ before) (without' : c ∉ before')
    (same : before ++ c :: rest = before' ++ c :: rest') : before = before' ∧ rest = rest' := by
  have first : before = before' := by
    have := congrArg (List.takeWhile (· != c)) same
    rwa [takeWhile_append without, takeWhile_append without'] at this
  subst first
  exact ⟨rfl, (List.cons.inj (List.append_cancel_left same)).2⟩

/-- Lists of items without commas are the same if they are written alike. -/
theorem intercalate_injective {items items' : List String}
    (plain : ∀ s ∈ items, ',' ∉ s.toList) (plain' : ∀ s ∈ items', ',' ∉ s.toList)
    (sameLength : items.length = items'.length)
    (same : ", ".intercalate items = ", ".intercalate items') : items = items' := by
  induction items generalizing items' with
  | nil => exact (List.length_eq_zero_iff.mp sameLength.symm).symm
  | cons s rest ih =>
    obtain ⟨s', rest', rfl⟩ := List.exists_cons_of_length_eq_add_one sameLength.symm
    cases rest with
    | nil =>
      obtain rfl : rest' = [] := by simpa using sameLength
      simpa using same
    | cons t rest =>
      -- The first comma ends the first item in both texts.
      obtain ⟨t', rest', rfl⟩ : ∃ t' rest'', rest' = t' :: rest'' :=
        List.exists_cons_of_length_eq_add_one (Nat.succ.inj sameLength).symm
      have parts : s.toList ++ ',' :: (' ' :: (", ".intercalate (t :: rest)).toList) =
          s'.toList ++ ',' :: (' ' :: (", ".intercalate (t' :: rest')).toList) := by
        have := congrArg String.toList same
        simpa [String.toList_intercalate, List.intercalate_cons_cons] using this
      obtain ⟨first, others⟩ := append_inj_of_notMem (plain s (by simp)) (plain' s' (by simp)) parts
      rw [String.toList_inj.mp first, ih (fun u inside => plain u (by simp [inside]))
        (fun u inside => plain' u (by simp [inside])) (Nat.succ.inj sameLength)
        (String.toList_inj.mp (List.cons.inj others).2)]

end FiveStage.Text
