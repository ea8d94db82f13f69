import ContentTransport.Text.Compatibility
import ContentTransport.Text.Lowercase
/-!
# Ascii — ASCII among the characters of all scripts

ASCII without capitals is its own lower-case form (`lower_of_ascii`).  Nothing composes with an ASCII character that
follows it, or with an opening bracket in front of it; so such characters keep their places around a text when its
compatibility form is taken (`compatibleBy_append`, `compatibleBy_bracket`).
-/
namespace Transport
namespace Text

/-! ## Lower case -/

theorem toLower_of_not_upper {c : Char} (h : ¬(65 ≤ c.toNat ∧ c.toNat ≤ 90)) : c.toLower = c := by
  refine dif_neg fun hupper => h ?_
  exact ⟨UInt32.le_iff_toNat_le.1 hupper.1, UInt32.le_iff_toNat_le.1 hupper.2⟩

theorem lower_of_ascii {cs : List Char} (h : ∀ c ∈ cs, c.toNat < 128 ∧ ¬(65 ≤ c.toNat ∧ c.toNat ≤ 90)) :
    lower cs = cs := by
  have hfrom (before : List Char) : lowerFrom before cs = cs := by
    induction cs generalizing before with
    | nil => rfl
    | cons c cs ih =>
      obtain ⟨hlow, hupper⟩ := h c List.mem_cons_self
      have hsigma : (c.toNat == 0x3a3) = false := by
        rw [beq_eq_false_iff_ne]
        omega
      rw [lowerFrom, hsigma, if_neg Bool.false_ne_true, lowerChar, if_pos hlow, toLower_of_not_upper hupper,
        ih fun c hc => h c (List.mem_cons_of_mem _ hc)]
      rfl
  exact hfrom []

/-! ## Tables

The words of a table are read in a way that evaluates one after the other. -/

/-- The parts of a list between the elements of a class; `last` is the part under way, reversed. -/
def piecesFrom (p : Char → Bool) : List Char → List Char → List (List Char)
  | last, [] => [last.reverse]
  | last, c :: cs => if p c then last.reverse :: piecesFrom p [] cs else piecesFrom p (c :: last) cs

theorem cut_eq (p : Char → Bool) (cs : List Char) : cut p cs = piecesFrom p [] cs := by
  have hfold (last : List Char) (parts : List (List Char)) :
      let acc := cs.foldl (fun (acc : List (List Char) × List Char) c =>
        if p c then (acc.2.reverse :: acc.1, []) else (acc.1, c :: acc.2)) (parts, last)
      (acc.2.reverse :: acc.1).reverse = parts.reverse ++ piecesFrom p last cs := by
    induction cs generalizing last parts with
    | nil => simp [piecesFrom]
    | cons c cs ih =>
      by_cases hc : p c = true
      · simpa [piecesFrom, hc] using ih [] (last.reverse :: parts)
      · simpa [piecesFrom, hc] using ih (c :: last) parts
  exact hfold [] []

theorem words_ofList (cs : List Char) :
    words (String.ofList cs) = (piecesFrom (fun c => c == ' ' || c == '\n') [] cs).filter (!·.isEmpty) := by
  unfold words
  rw [String.toList_ofList, cut_eq]

/-- A table has nothing for a key that is unlike all of its keys. -/
theorem getElem?_ofList_eq_none {α β : Type} [BEq α] [LawfulBEq α] [Hashable α] [LawfulHashable α] {l : List (α × β)}
    (p : α → Bool) (all : l.all (fun e => p e.1) = true) {k : α} (other : p k = false) :
    (Std.HashMap.ofList l)[k]? = none := by
  refine Std.HashMap.getElem?_ofList_of_contains_eq_false (Bool.eq_false_iff.2 fun h => ?_)
  obtain ⟨e, he, rfl⟩ := List.mem_map.1 (List.contains_iff_mem.1 h)
  rw [List.all_eq_true.1 all e he] at other
  cases other

/-! ## Composing -/

/-- Nothing composes with ASCII that follows it, or with an opening bracket in front of it. -/
def joins (e : (Nat × Nat) × Nat) : Bool := 128 ≤ e.1.2 && e.1.1 != 0x5b

theorem compositions_join : ∀ t ∈ compositionTexts, ((words t).map composition).all joins = true := by
  unfold compositionTexts
  simp only [List.forall_mem_cons]
  refine ⟨?_, ?_, ?_, ?_, ?_, fun t ht => (List.not_mem_nil ht).elim⟩ <;> (rw [words_ofList]; decide +kernel)

theorem compositions_eq_none {a b : Nat} (h : b < 128 ∨ a = 0x5b) : compositions[(a, b)]? = none := by
  refine getElem?_ofList_eq_none (fun k => 128 ≤ k.2 && k.1 != 0x5b) ?_ ?_
  · rw [List.map_flatMap, List.all_flatMap, List.all_eq_true]
    exact compositions_join
  · rcases h with h | rfl
    · simp [Nat.not_le.2 h]
    · simp

theorem composite?_eq_none {a b : Nat} (h : b < 128 ∨ a = 0x5b) : composite? a b = none := by
  have hleading : (0x1100 ≤ a && a < 0x1113 && 0x1161 ≤ b && b < 0x1176) = false := by
    rcases h with h | rfl
    · simp [show ¬0x1161 ≤ b by omega]
    · simp
  have htrailing : (hangulBase ≤ a && a < hangulBase + 11172 && (a - hangulBase) % 28 == 0 && 0x11a7 < b && b < 0x11c3)
      = false := by
    rcases h with h | rfl
    · simp [show ¬0x11a7 < b by omega]
    · simp [hangulBase]
  unfold composite?
  rw [hleading, htrailing]
  exact compositions_eq_none h

theorem combiningClass_of_ascii {n : Nat} (h : n < 128) : combiningClass n = 0 :=
  if_pos (Nat.lt_trans h (by decide))

theorem placeMark_concat {m : Nat} (starter : combiningClass m = 0) (n : Nat) :
    ∀ acc, placeMark n (acc ++ [m]) = placeMark n acc ++ [m]
  | [] => by simp [placeMark, starter]
  | k :: acc => by
    rw [List.cons_append, placeMark, placeMark]
    split
    · rw [placeMark_concat starter n acc]
      rfl
    · rfl

theorem reorder_append (ns : List Nat) {after : List Nat} (ascii : ∀ n ∈ after, n < 128) :
    reorder (ns ++ after) = reorder ns ++ after := by
  have hfold (acc : List Nat) :
      after.foldl (fun acc n => if combiningClass n == 0 then n :: acc else placeMark n acc) acc = after.reverse ++ acc := by
    induction after generalizing acc with
    | nil => rfl
    | cons n after ih =>
      rw [List.foldl_cons, combiningClass_of_ascii (ascii n List.mem_cons_self),
        ih fun n hn => ascii n (List.mem_cons_of_mem _ hn)]
      simp
  unfold reorder
  rw [List.foldl_append, hfold, List.reverse_append, List.reverse_reverse]

theorem reorder_cons {m : Nat} (starter : combiningClass m = 0) (ns : List Nat) :
    reorder (m :: ns) = m :: reorder ns := by
  have hfold (acc : List Nat) :
      ns.foldl (fun acc n => if combiningClass n == 0 then n :: acc else placeMark n acc) (acc ++ [m])
        = ns.foldl (fun acc n => if combiningClass n == 0 then n :: acc else placeMark n acc) acc ++ [m] := by
    induction ns generalizing acc with
    | nil => rfl
    | cons n ns ih =>
      rw [List.foldl_cons, List.foldl_cons]
      split
      · exact ih (n :: acc)
      · rw [placeMark_concat starter]
        exact ih (placeMark n acc)
  have hnil := hfold []
  unfold reorder
  rw [List.foldl_cons, starter]
  rw [List.nil_append] at hnil
  exact (congrArg List.reverse hnil).trans (by simp)

theorem push_of_none {s : Composing} {n : Nat} (h : ∀ a, s.starter = some a → composite? a n = none) :
    s.push n = Composing.push.keep s n (combiningClass n) := by
  unfold Composing.push
  rw [Option.bind_eq_none_iff.2 h]

/-- An ASCII character joins nothing. -/
theorem push_of_ascii {n : Nat} (ascii : n < 128) (s : Composing) : s.push n = { done := s.all, starter := some n } := by
  rw [push_of_none fun _ _ => composite?_eq_none (.inl ascii), combiningClass_of_ascii ascii]
  rfl

theorem compose_append (ns : List Nat) {after : List Nat} (ascii : ∀ n ∈ after, n < 128) :
    compose (ns ++ after) = compose ns ++ after := by
  have hfold (s : Composing) : (after.foldl Composing.push s).all = after.reverse ++ s.all := by
    induction after generalizing s with
    | nil => rfl
    | cons n after ih =>
      rw [List.foldl_cons, ih (fun n hn => ascii n (List.mem_cons_of_mem _ hn)),
        push_of_ascii (ascii n List.mem_cons_self)]
      simp [Composing.all]
  unfold compose
  rw [List.foldl_append, hfold, List.reverse_append, List.reverse_reverse]

/-- What has been composed of a text, and what has been composed of it with an opening bracket in front. -/
inductive Bracketed : Composing → Composing → Prop
  | marks (ms : List Nat) : Bracketed { marks := ms } { starter := some 0x5b, marks := ms }
  | started (done : List Nat) (n : Nat) (ms : List Nat) : Bracketed ⟨done, some n, ms⟩ ⟨done ++ [0x5b], some n, ms⟩

theorem Bracketed.all {s t : Composing} (h : Bracketed s t) : t.all = s.all ++ [0x5b] := by
  cases h <;> simp [Composing.all]

theorem Bracketed.keep {s t : Composing} (h : Bracketed s t) (n k : Nat) :
    Bracketed (Composing.push.keep s n k) (Composing.push.keep t n k) := by
  unfold Composing.push.keep
  split
  · rw [h.all]
    exact .started s.all n []
  · cases h with
    | marks ms => exact .marks (n :: ms)
    | started done m ms => exact .started done m (n :: ms)

theorem Bracketed.push {s t : Composing} (h : Bracketed s t) (n : Nat) : Bracketed (s.push n) (t.push n) := by
  have hkeep := h.keep n (combiningClass n)
  cases h with
  | marks ms =>
    have hplain (a : Nat) (ha : none = some a) : composite? a n = none := nomatch ha
    have hbracket (a : Nat) (ha : some 0x5b = some a) : composite? a n = none :=
      composite?_eq_none (.inr (Option.some.inj ha).symm)
    rw [push_of_none hplain, push_of_none hbracket]
    exact hkeep
  | started done m ms =>
    cases hjoin : composite? m n with
    | none =>
      have hnone (a : Nat) (ha : some m = some a) : composite? a n = none := Option.some.inj ha ▸ hjoin
      rw [push_of_none hnone, push_of_none hnone]
      exact hkeep
    | some c =>
      unfold Composing.push
      rw [Option.bind_some, hjoin]
      cases ms with
      | nil => exact .started done c []
      | cons k ms =>
        dsimp only
        split
        · exact hkeep
        · exact .started done c (k :: ms)

theorem compose_bracket (ns : List Nat) : compose (0x5b :: ns) = 0x5b :: compose ns := by
  have hfold {s t : Composing} (h : Bracketed s t) :
      Bracketed (ns.foldl Composing.push s) (ns.foldl Composing.push t) := by
    induction ns generalizing s t with
    | nil => exact h
    | cons n ns ih => exact ih (h.push n)
  have hfirst : Composing.push {} 0x5b = { starter := some 0x5b } := push_of_ascii (by decide) {}
  unfold compose
  rw [List.foldl_cons, hfirst, (hfold (Bracketed.marks [])).all, List.reverse_append]
  rfl

/-! ## The compatibility form -/

section

variable {parts : Nat → List Nat} (plain : ∀ n, n < 128 → parts n = [n])

include plain

theorem flatMap_parts {cs : List Char} (ascii : ∀ c ∈ cs, c.toNat < 128) :
    cs.flatMap (fun c => parts c.toNat) = cs.map Char.toNat := by
  induction cs with
  | nil => rfl
  | cons c cs ih =>
    rw [List.flatMap_cons, plain _ (ascii c List.mem_cons_self), ih fun c hc => ascii c (List.mem_cons_of_mem _ hc)]
    rfl

theorem compatibleBy_append (cs : List Char) {after : List Char} (ascii : ∀ c ∈ after, c.toNat < 128) :
    compatibleBy parts (cs ++ after) = compatibleBy parts cs ++ after := by
  have hafter : after.all (·.toNat < 128) = true := List.all_eq_true.2 fun c hc => decide_eq_true (ascii c hc)
  have hnats : ∀ n ∈ after.map Char.toNat, n < 128 := List.forall_mem_map.2 ascii
  have hback : (after.map Char.toNat).map Char.ofNat = after := by
    rw [List.map_map]
    exact (List.map_congr_left fun c _ => Char.ofNat_toNat c).trans (List.map_id _)
  unfold compatibleBy
  rw [List.all_append, hafter, Bool.and_true, List.flatMap_append, flatMap_parts plain ascii, reorder_append _ hnats,
    compose_append _ hnats, List.map_append, hback]
  split <;> rfl

theorem compatibleBy_bracket (cs : List Char) : compatibleBy parts ('[' :: cs) = '[' :: compatibleBy parts cs := by
  have hparts : parts ('['.toNat) = [0x5b] := plain 0x5b (by decide)
  have hascii : decide ('['.toNat < 128) = true := by decide
  unfold compatibleBy
  rw [List.all_cons, hascii, Bool.true_and, List.flatMap_cons, hparts, List.singleton_append,
    reorder_cons (combiningClass_of_ascii (by decide)), compose_bracket]
  split <;> rfl

end

end Text
end Transport
