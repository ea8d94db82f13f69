import ContentTransport.Bytes
/-!
# Bytes — padding, parts and digits

What trimming, splitting and reading a number undo: padding around bytes without any at their ends (`trim_pad`), a list
of one part (`split_of_not_mem`), parts put together again (`intercalate_split`), and the decimal digits of a number
(`number_decimal`).
-/
namespace Transport
namespace Bytes

/-! ## Padding -/

theorem dropWhile_append_of_all {p : UInt8 → Bool} : ∀ {xs : Bytes} (ys : Bytes), xs.all p = true →
    (xs ++ ys).dropWhile p = ys.dropWhile p
  | [], _, _ => rfl
  | x :: xs, ys, h => by
    rw [List.all_cons, Bool.and_eq_true] at h
    rw [List.cons_append, List.dropWhile_cons, if_pos h.1, dropWhile_append_of_all ys h.2]

theorem dropWhile_of_head? {p : UInt8 → Bool} : ∀ {xs : Bytes}, xs.head?.all (!p ·) = true → xs.dropWhile p = xs
  | [], _ => rfl
  | x :: xs, h => by
    have hx : p x = false := by simpa using h
    simp [hx]

/-- Trimming takes off what is put around bytes that begin and end with others. -/
theorem trim_pad {p : UInt8 → Bool} {before v after : Bytes} (hb : before.all p = true) (ha : after.all p = true)
    (hh : v.head?.all (!p ·) = true) (hl : v.getLast?.all (!p ·) = true) : trim p (before ++ v ++ after) = v := by
  have hr : after.reverse.all p = true := by rw [List.all_reverse, ha]
  have hlast : v.reverse.head?.all (!p ·) = true := by rw [List.head?_reverse, hl]
  unfold trim
  rw [List.append_assoc, dropWhile_append_of_all _ hb]
  cases v with
  | nil => rw [List.nil_append, ← List.append_nil after, dropWhile_append_of_all _ ha]; rfl
  | cons x v =>
    have hx : (x :: v ++ after).head?.all (!p ·) = true := hh
    rw [dropWhile_of_head? hx, List.reverse_append, dropWhile_append_of_all _ hr, dropWhile_of_head? hlast,
      List.reverse_reverse]

theorem trim_eq_self {p : UInt8 → Bool} {v : Bytes} (hh : v.head?.all (!p ·) = true)
    (hl : v.getLast?.all (!p ·) = true) : trim p v = v := by
  have h : trim p ([] ++ v ++ []) = v := trim_pad rfl rfl hh hl
  rwa [List.nil_append, List.append_nil] at h

theorem all_ends {p : UInt8 → Bool} {v : Bytes} (h : v.all p = true) :
    v.head?.all p = true ∧ v.getLast?.all p = true := by
  rw [List.all_eq_true] at h
  constructor
  · rw [Option.all_eq_true]
    intro x hx
    exact h x (List.mem_of_head? hx)
  · rw [Option.all_eq_true]
    intro x hx
    exact h x (List.mem_of_getLast? hx)

/-! ## Parts -/

theorem split_of_not_mem {sep : UInt8} : ∀ {b : Bytes}, sep ∉ b → split sep b = [b]
  | [], _ => rfl
  | x :: b, h => by
    rw [List.mem_cons, not_or] at h
    have hb := split_of_not_mem h.2
    have hx : (x == sep) = false := by simpa using Ne.symm h.1
    unfold split at hb ⊢
    rw [List.foldr_cons, hb, hx]
    rfl

theorem split_cons (sep x : UInt8) (b : Bytes) : split sep (x :: b) =
    if x == sep then [] :: split sep b else match split sep b with
      | [] => [[x]]
      | p :: ps => (x :: p) :: ps := rfl

theorem split_ne_nil (sep : UInt8) (b : Bytes) : split sep b ≠ [] := by
  cases b with
  | nil => exact List.cons_ne_nil _ _
  | cons x b =>
    rw [split_cons]
    split
    · exact List.cons_ne_nil _ _
    · split <;> exact List.cons_ne_nil _ _

theorem intercalate_cons {sep : UInt8} {w : Bytes} {ws : List Bytes} (some : ws ≠ []) :
    [sep].intercalate (w :: ws) = w ++ sep :: [sep].intercalate ws := by
  obtain ⟨v, r, rfl⟩ := List.exists_cons_of_ne_nil some
  rw [List.intercalate_cons_cons, List.append_assoc]
  rfl

theorem intercalate_concat {sep : UInt8} {ws : List Bytes} (some : ws ≠ []) (w : Bytes) :
    [sep].intercalate (ws ++ [w]) = [sep].intercalate ws ++ sep :: w := by
  induction ws with
  | nil => exact absurd rfl some
  | cons v ws ih =>
    rw [List.cons_append, intercalate_cons (List.append_ne_nil_of_right_ne_nil _ (List.cons_ne_nil _ _))]
    by_cases hws : ws = []
    · rw [hws, List.nil_append, List.intercalate_singleton, List.intercalate_singleton]
    · rw [ih hws, intercalate_cons hws, List.append_assoc]
      rfl

/-- The parts, with the separators between them again. -/
theorem intercalate_split (sep : UInt8) (b : Bytes) : [sep].intercalate (split sep b) = b := by
  induction b with
  | nil => exact List.intercalate_singleton
  | cons x b ih =>
    rw [split_cons]
    split
    · rename_i hx
      rw [intercalate_cons (split_ne_nil sep b), ih, beq_iff_eq.1 hx]
      rfl
    · obtain ⟨p, ps, hp⟩ := List.exists_cons_of_ne_nil (split_ne_nil sep b)
      rw [hp] at ih ⊢
      rw [← ih]
      cases ps with
      | nil => simp
      | cons q ps => simp [List.intercalate_cons_cons]

/-! ## Digits -/

theorem decimal_eq (n : Nat) : decimal n = (Nat.toDigits 10 n).map fun c => c.toNat.toUInt8 := by
  simp [decimal, ofText]

theorem toNat_of_isDigit {c : Char} (h : c.isDigit = true) :
    c.toNat.toUInt8.toNat = c.toNat ∧ 48 ≤ c.toNat ∧ c.toNat ≤ 57 := by
  simp only [Char.isDigit, Bool.and_eq_true, decide_eq_true_eq] at h
  have h1 : 48 ≤ c.toNat := h.1
  have h2 : c.toNat ≤ 57 := h.2
  refine ⟨?_, h1, h2⟩
  rw [Nat.toUInt8_eq, UInt8.toNat_ofNat']
  omega

theorem isDigit_iff (b : UInt8) : isDigit b = true ↔ 48 ≤ b.toNat ∧ b.toNat ≤ 57 := by
  simp [isDigit, UInt8.le_iff_toNat_le]

theorem hexValue?_of_isDigit {b : UInt8} (h : isDigit b = true) : hexValue? b = some (b.toNat - 48) := by
  unfold hexValue?
  rw [if_pos h]

theorem all_isDigit_decimal (n : Nat) : (decimal n).all isDigit = true := by
  rw [decimal_eq, List.all_map, List.all_eq_true]
  intro c hc
  have hd := toNat_of_isDigit (Nat.isDigit_of_mem_toDigits (by decide) (by decide) hc)
  rw [Function.comp_apply, isDigit_iff, hd.1]
  exact hd.2

theorem decimal_ne_nil (n : Nat) : decimal n ≠ [] := by
  rw [decimal_eq]
  simp

theorem length_decimal (n : Nat) : (decimal n).length = (Nat.toDigits 10 n).length := by
  rw [decimal_eq, List.length_map]

theorem foldl_digits : ∀ (cs : List Char) (a : Nat), (∀ c ∈ cs, c.isDigit = true) →
    (cs.map fun c => c.toNat.toUInt8).foldl (fun n b => n * 10 + (hexValue? b).getD 0) a = Nat.ofDigitChars 10 cs a
  | [], _, _ => rfl
  | c :: cs, a, h => by
    obtain ⟨hto, hlo, hhi⟩ := toNat_of_isDigit (h c List.mem_cons_self)
    have hd : isDigit c.toNat.toUInt8 = true := by rw [isDigit_iff, hto]; exact ⟨hlo, hhi⟩
    rw [List.map_cons, List.foldl_cons, foldl_digits cs _ fun x hx => h x (List.mem_cons_of_mem _ hx),
      Nat.ofDigitChars_cons, hexValue?_of_isDigit hd, hto, Option.getD_some, Nat.mul_comm a 10]
    rfl

/-- A number reads back from its decimal digits. -/
theorem number_decimal (n : Nat) : number 10 (decimal n) = n := by
  rw [decimal_eq, number, foldl_digits _ 0 fun c hc => Nat.isDigit_of_mem_toDigits (by decide) (by decide) hc]
  exact Nat.ofDigitChars_ten_toDigits

theorem decimal_three {n : Nat} (h : 100 ≤ n) (h' : n ≤ 999) : ∃ a b c, decimal n = [a, b, c] := by
  have hle : (decimal n).length ≤ 3 := by
    rw [length_decimal, Nat.length_toDigits_le_iff (by decide) (by decide)]
    omega
  have hge : ¬ (decimal n).length ≤ 2 := by
    rw [length_decimal, Nat.length_toDigits_le_iff (by decide) (by decide)]
    omega
  match decimal n, hle, hge with
  | [a, b, c], _, _ => exact ⟨a, b, c, rfl⟩
  | [], _, hge => exact absurd (Nat.zero_le 2) hge
  | [_], _, hge => exact absurd (by decide : 1 ≤ 2) hge
  | [_, _], _, hge => exact absurd (Nat.le_refl 2) hge
  | _ :: _ :: _ :: _ :: _, hle, _ =>
    simp only [List.length_cons] at hle
    omega

end Bytes
end Transport
