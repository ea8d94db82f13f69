import ContentTransport.HostName.Ascii
import ContentTransport.Proofs.Http.Request
import ContentTransport.Proofs.Text.Ascii
/-!
# Label — one label of a host name, and what stands around a host

The Host field puts brackets around some hosts and a port behind some.  These marks are ASCII that no preparation changes,
so a label with marks around it has the plain form of the label with the marks around it (`plain?_around`).  A label without
a plain form is written in Punycode, which takes the marks in: there the label is not the label with marks around it
(`labelToAscii_around`).
-/
namespace Transport
namespace HostName

open Text (words pairs hexNumber image words_ofList getElem?_ofList_eq_none)

/-! ## ASCII in the tables -/

theorem has_of_ascii {r : Text.Ranges} (beyond : r.all (128 ≤ ·.1) = true) {c : Char} (ascii : c.toNat < 128) :
    r.has c = false := by
  refine List.any_eq_false.2 fun p hp => ?_
  have hp : 128 ≤ p.1 := of_decide_eq_true (List.all_eq_true.1 beyond p hp)
  simp only [Bool.and_eq_true, decide_eq_true_eq]
  omega

theorem droppedRanges_beyond : droppedRanges.all (128 ≤ ·.1) = true := by decide

theorem prohibitedRanges_beyond : prohibitedRanges.all (128 ≤ ·.1) = true := by
  unfold prohibitedRanges Text.Ranges.ofText
  rw [words_ofList]
  decide +kernel

theorem rightToLeftRanges_beyond : rightToLeftRanges.all (128 ≤ ·.1) = true := by
  unfold rightToLeftRanges Text.Ranges.ofText
  rw [words_ofList]
  decide +kernel

theorem foldings_of_ascii {n : Nat} (ascii : n < 128) : foldings[n]? = none := by
  refine getElem?_ofList_eq_none (128 ≤ ·) ?_ (decide_eq_false (Nat.not_le.2 ascii))
  unfold pairs
  rw [words_ofList]
  decide +kernel

/-! ## Preparing -/

/-- The form in which a label is compared, before anything is refused. -/
def form (label : List Char) : List Char := compatible ((label.filter (!droppedRanges.has ·)).flatMap fold)

theorem decompose_of_ascii (n : Nat) (ascii : n < 128) : decompose n = [n] := if_pos ascii

theorem compatible_of_ascii {cs : List Char} (ascii : ∀ c ∈ cs, c.toNat < 128) : compatible cs = cs :=
  if_pos (List.all_eq_true.2 fun c hc => decide_eq_true (ascii c hc))

/-- A character of ASCII that has no other case to fold to. -/
def IsFolded (c : Char) : Prop := c.toNat < 128 ∧ ¬(65 ≤ c.toNat ∧ c.toNat ≤ 90)

theorem foldOnce_of_folded {c : Char} (h : IsFolded c) : foldOnce c = [c] := by
  unfold foldOnce
  rw [foldings_of_ascii h.1, Option.map_none, Option.getD_none]
  exact Text.lower_of_ascii fun x hx => List.mem_singleton.1 hx ▸ h

theorem fold_of_folded {c : Char} (h : IsFolded c) : fold c = [c] := by
  have hsame : compatible [c] = [c] := compatible_of_ascii fun x hx => List.mem_singleton.1 hx ▸ h.1
  unfold fold
  dsimp only
  rw [foldOnce_of_folded h, hsame, List.flatMap_singleton, foldOnce_of_folded h, hsame]
  exact ite_self _

theorem folded_of_folded {cs : List Char} (h : ∀ c ∈ cs, IsFolded c) :
    (cs.filter (!droppedRanges.has ·)).flatMap fold = cs := by
  have hkept : cs.filter (!droppedRanges.has ·) = cs := List.filter_eq_self.2 fun c hc => by
    rw [has_of_ascii droppedRanges_beyond (h c hc).1]
    rfl
  rw [hkept]
  induction cs with
  | nil => rfl
  | cons c cs ih =>
    obtain ⟨hc, hcs⟩ := List.forall_mem_cons.1 h
    have hkept := List.filter_eq_self.2 fun d hd => List.filter_eq_self.1 hkept d (List.mem_cons_of_mem c hd)
    rw [List.flatMap_cons, fold_of_folded hc, ih hcs hkept]
    rfl

theorem prepare_ok {label f : List Char} (h : prepare label = .ok f) : f = form label := by
  unfold prepare at h
  dsimp only at h
  split at h
  · cases h
  · obtain ⟨_, -, h⟩ := bind_ok h
    exact (Except.ok.inj h).symm

theorem prepare_of_ascii {label : List Char} (ascii : ∀ c ∈ form label, c.toNat < 128) :
    prepare label = .ok (form label) := by
  unfold prepare
  unfold form at ascii ⊢
  dsimp only
  generalize compatible ((label.filter (!droppedRanges.has ·)).flatMap fold) = f at ascii ⊢
  have hallowed : f.find? prohibitedRanges.has = none := List.find?_eq_none.2 fun c hc => by
    rw [has_of_ascii prohibitedRanges_beyond (ascii c hc)]
    exact Bool.false_ne_true
  have hdirections : checkDirections f = .ok () := if_neg (by
    rw [List.any_eq_true]
    rintro ⟨c, hc, h⟩
    rw [has_of_ascii rightToLeftRanges_beyond (ascii c hc)] at h
    cases h)
  rw [hallowed, hdirections]
  rfl

/-! ## ASCII bytes -/

/-- The bytes of characters that are ASCII. -/
def bytes (cs : List Char) : Bytes := cs.map fun c => c.toNat.toUInt8

theorem bytes_nil : bytes [] = [] := rfl

theorem ascii?_eq_some {cs : List Char} {b : Bytes} :
    Bytes.ascii? cs = some b ↔ (∀ c ∈ cs, c.toNat < 128) ∧ b = bytes cs := by
  have hall : cs.all (fun c => c.toNat < 128) = true ↔ ∀ c ∈ cs, c.toNat < 128 := by simp
  unfold Bytes.ascii? Bytes.below? bytes
  split
  · rename_i h
    rw [Option.some.injEq, eq_comm]
    exact ⟨fun hb => ⟨hall.1 h, hb⟩, And.right⟩
  · rename_i h
    exact ⟨nofun, fun ⟨ha, _⟩ => absurd (hall.2 ha) h⟩

theorem ascii?_of_ascii {cs : List Char} (ascii : ∀ c ∈ cs, c.toNat < 128) : Bytes.ascii? cs = some (bytes cs) :=
  ascii?_eq_some.2 ⟨ascii, rfl⟩

/-! ## Plain labels -/

/-- The bytes of a label that is written without Punycode: its own, or those of its form. -/
def plain? (label : List Char) : Option Bytes := Bytes.ascii? label <|> Bytes.ascii? (form label)

theorem labelToAscii_of_plain {label : List Char} {w : Bytes} (h : plain? label = some w) :
    labelToAscii label = checkLength w := by
  unfold plain? at h
  unfold labelToAscii
  cases hown : Bytes.ascii? label with
  | some b =>
    rw [hown] at h
    exact congrArg checkLength (Option.some.inj h)
  | none =>
    rw [hown] at h
    have hform : Bytes.ascii? (form label) = some w := h
    rw [prepare_of_ascii (ascii?_eq_some.1 hform).1]
    dsimp only [bind, Except.bind]
    rw [hform]

theorem checkLength_ok {w a : Bytes} (h : checkLength w = .ok a) : a = w ∧ 0 < w.length ∧ w.length < 64 := by
  unfold checkLength at h
  split at h
  · rename_i hlength
    rw [Bool.and_eq_true, decide_eq_true_eq, decide_eq_true_eq] at hlength
    exact ⟨(Except.ok.inj h).symm, hlength⟩
  · cases h

theorem checkLength_of {w : Bytes} (pos : 0 < w.length) (few : w.length < 64) : checkLength w = .ok w := by
  unfold checkLength
  rw [decide_eq_true pos, decide_eq_true few]
  rfl

theorem labelToAscii_of_not_plain {label : List Char} {a : Bytes} (h : plain? label = none)
    (written : labelToAscii label = .ok a) : a = bytes mark ++ punycode (form label) := by
  have hown : Bytes.ascii? label = none := by
    cases hown : Bytes.ascii? label with
    | none => rfl
    | some b =>
      rw [plain?, hown] at h
      cases h
  have hform : Bytes.ascii? (form label) = none := by
    rw [plain?, hown] at h
    exact h
  unfold labelToAscii at written
  rw [hown] at written
  dsimp only at written
  obtain ⟨f, hf, written⟩ := bind_ok written
  rw [prepare_ok hf, hform] at written
  dsimp only at written
  split at written
  · cases written
  · exact (checkLength_ok written).1

/-! ## Punycode ends in letters and figures -/

/-- A lower-case letter or a figure. -/
def isFigure (b : UInt8) : Bool := (97 ≤ b && b ≤ 122) || Bytes.isDigit b

theorem isFigure_digit {n : Nat} (h : n < 36) : isFigure (digit n) = true := by
  have hall : ∀ n : Fin 36, isFigure (digit n) = true := by decide
  exact hall ⟨n, h⟩

theorem threshold_le (place bias : Nat) : threshold place bias ≤ 26 := by
  unfold threshold
  omega

theorem isFigure_digitsFrom (bias place n : Nat) : ∀ b ∈ digitsFrom bias place n, isFigure b = true := by
  fun_induction digitsFrom bias place n with
  | case1 place n last =>
    have hle := threshold_le place bias
    exact List.forall_mem_singleton.2 (isFigure_digit (by omega))
  | case2 place n more t ih =>
    have hle : t ≤ 26 := threshold_le place bias
    refine List.forall_mem_cons.2 ⟨isFigure_digit ?_, ih⟩
    have := Nat.mod_lt (n - t) (show 0 < 36 - t by omega)
    omega

theorem isFigure_round (n : Nat) (label : List Nat) {s : Inserting} (h : ∀ b ∈ s.output, isFigure b = true) :
    ∀ b ∈ (Inserting.round n s label).output, isFigure b = true := by
  unfold Inserting.round
  induction label generalizing s with
  | nil => exact h
  | cons c label ih =>
    refine ih ?_
    dsimp only
    split
    · exact h
    · split
      · exact List.forall_mem_append.2 ⟨fun b hb => isFigure_digitsFrom _ _ _ b (List.mem_reverse.1 hb), h⟩
      · exact h

theorem isFigure_insertAll (label : List Nat) (last : Nat) {s : Inserting} (others : List Nat)
    (h : ∀ b ∈ s.output, isFigure b = true) : ∀ b ∈ (insertAll label last s others).output, isFigure b = true := by
  induction others generalizing last s with
  | nil => exact h
  | cons n others ih => exact ih _ (isFigure_round n label h)

/-- A label with ASCII in it has a hyphen in Punycode, and nothing but letters and figures follows. -/
theorem punycode_ends {label : List Char} (some : ∃ c ∈ label, c.toNat < 128) :
    ∃ before after, punycode label = before ++ 45 :: after ∧ ∀ b ∈ after, isFigure b = true := by
  obtain ⟨c, hc, hascii⟩ := some
  have hbase : ((label.map Char.toNat).filter (· < 128)).isEmpty = false := by
    rw [List.isEmpty_eq_false_iff]
    exact List.ne_nil_of_mem (List.mem_filter.2 ⟨List.mem_map_of_mem hc, decide_eq_true hascii⟩)
  unfold punycode
  dsimp only
  rw [hbase]
  refine ⟨_, _, List.append_assoc _ [45] _, fun b hb => ?_⟩
  exact isFigure_insertAll _ 128 _ (fun _ h => absurd h List.not_mem_nil) b (List.mem_reverse.1 hb)

/-! ## Marks -/

/-- A closing bracket, a colon or a figure. -/
def isMark (c : Char) : Bool := c == ']' || c == ':' || c.isDigit

/-- What the Host field puts around a host: in front an opening bracket, or nothing; behind a closing bracket, or a colon,
and more marks, or nothing. -/
structure Around (before after : List Char) : Prop where
  front : before = [] ∨ before = ['[']
  back : after = [] ∨ ∃ c r, after = c :: r ∧ (c = ']' ∨ c = ':')
  marks : ∀ c ∈ after, isMark c = true

theorem isMark_bounds {c : Char} (h : isMark c = true) : 48 ≤ c.toNat ∧ c.toNat ≤ 58 ∨ c.toNat = 93 := by
  simp only [isMark, Bool.or_eq_true, beq_iff_eq] at h
  rcases h with (rfl | rfl) | h
  · exact .inr rfl
  · exact .inl (by decide)
  · have := Bytes.toNat_of_isDigit h
    omega

theorem isFolded_of_isMark {c : Char} (h : isMark c = true) : IsFolded c := by
  have := isMark_bounds h
  exact ⟨by omega, by omega⟩

namespace Around

variable {before after : List Char} (h : Around before after)

include h

theorem folded : (∀ c ∈ before, IsFolded c) ∧ ∀ c ∈ after, IsFolded c := by
  refine ⟨fun c hc => ?_, fun c hc => isFolded_of_isMark (h.marks c hc)⟩
  rcases h.front with rfl | rfl
  · cases hc
  · rw [List.mem_singleton.1 hc]
    exact ⟨by decide, by decide⟩

theorem ascii : (∀ c ∈ before, c.toNat < 128) ∧ ∀ c ∈ after, c.toNat < 128 :=
  ⟨fun c hc => (h.folded.1 c hc).1, fun c hc => (h.folded.2 c hc).1⟩

theorem form_around (label : List Char) : form (before ++ label ++ after) = before ++ form label ++ after := by
  have hfront (cs : List Char) : compatible (before ++ cs) = before ++ compatible cs := by
    rcases h.front with rfl | rfl
    · rfl
    · exact Text.compatibleBy_bracket decompose_of_ascii cs
  unfold form
  rw [List.filter_append, List.filter_append, List.flatMap_append, List.flatMap_append, folded_of_folded h.folded.1,
    folded_of_folded h.folded.2]
  rw [compatible, Text.compatibleBy_append decompose_of_ascii _ h.ascii.2]
  exact congrArg (· ++ after) (hfront _)

theorem ascii?_around (cs : List Char) :
    Bytes.ascii? (before ++ cs ++ after) = (Bytes.ascii? cs).map fun w => bytes before ++ w ++ bytes after := by
  cases hcs : Bytes.ascii? cs with
  | some w =>
    obtain ⟨hascii, rfl⟩ := ascii?_eq_some.1 hcs
    have hall : ∀ c ∈ before ++ cs ++ after, c.toNat < 128 :=
      List.forall_mem_append.2 ⟨List.forall_mem_append.2 ⟨h.ascii.1, hascii⟩, h.ascii.2⟩
    rw [ascii?_of_ascii hall]
    simp [bytes]
  | none =>
    cases hall : Bytes.ascii? (before ++ cs ++ after) with
    | none => rfl
    | some w =>
      have hascii := (ascii?_eq_some.1 hall).1
      rw [ascii?_of_ascii fun c hc => hascii c (by simp [hc])] at hcs
      cases hcs

/-- **The plain form of a label with marks around it is the plain form of the label, with the marks around it.** -/
theorem plain?_around (label : List Char) :
    plain? (before ++ label ++ after) = (plain? label).map fun w => bytes before ++ w ++ bytes after := by
  unfold plain?
  rw [h.form_around, h.ascii?_around, h.ascii?_around]
  cases Bytes.ascii? label <;> rfl

end Around

/-! ## One label with marks around it -/

/-- A label has a plain form that leaves room for more bytes. -/
def Fits (more : Nat) (label : List Char) : Prop := ∃ w, plain? label = some w ∧ w.length + more < 64

theorem fits_iff {more : Nat} {label : List Char} :
    Fits more label ↔ (plain? label).any (·.length + more < 64) = true := by
  simp [Fits, Option.any_eq_true]

instance (more : Nat) (label : List Char) : Decidable (Fits more label) := decidable_of_iff' _ fits_iff

/-- The bytes of the last label of a name, which may be empty. -/
def Ends (label : List Char) (a : Bytes) : Prop := labelToAscii label = .ok a ∨ label = [] ∧ a = []

theorem ends_of_plain {label : List Char} {a w : Bytes} (h : Ends label a) (plain : plain? label = some w) : a = w := by
  rcases h with h | ⟨rfl, rfl⟩
  · rw [labelToAscii_of_plain plain] at h
    exact (checkLength_ok h).1
  · exact Option.some.inj plain

theorem not_mem_of_isFigure {out : Bytes} (h : ∀ b ∈ out, isFigure b = true) {b : UInt8} (other : isFigure b = false) :
    b ∉ out := by
  intro hb
  rw [h b hb] at other
  cases other

/-- Two texts differ if one ends with a part that holds a byte that the end of the other does not hold, and the other way
round. -/
theorem append_ne_append {a x r out : Bytes} {m k : UInt8} (hm : m ∉ k :: out) (hk : k ∉ m :: r) :
    a ++ m :: r ≠ x ++ k :: out := by
  intro he
  rcases List.append_eq_append_iff.1 he with ⟨t, -, ht⟩ | ⟨t, -, ht⟩
  · exact hk (by simp [ht])
  · exact hm (by simp [ht])

namespace Around

variable {before after : List Char} (h : Around before after)

include h

/-- Punycode does not end like marks, and does not begin with a bracket. -/
theorem punycode_ne {label : List Char} (some : before ++ after ≠ []) (a : Bytes) :
    bytes before ++ a ++ bytes after ≠ bytes mark ++ punycode (before ++ label ++ after) := by
  rcases h.front with rfl | rfl
  · rcases h.back with rfl | ⟨c, r, rfl, hc⟩
    · exact absurd rfl some
    · have hascii := h.ascii.2
      have hsome : ∃ d ∈ [] ++ label ++ c :: r, d.toNat < 128 := ⟨c, by simp, hascii c List.mem_cons_self⟩
      obtain ⟨x, out, hx, hout⟩ := punycode_ends hsome
      rw [hx, ← List.append_assoc]
      have hfirst : c.toNat.toUInt8 ≠ 45 ∧ isFigure c.toNat.toUInt8 = false := by
        rcases hc with rfl | rfl <;> decide
      refine append_ne_append (List.not_mem_cons_of_ne_of_not_mem hfirst.1 (not_mem_of_isFigure hout hfirst.2)) fun hk => ?_
      obtain ⟨d, hd, he⟩ := List.mem_map.1 (show (45 : UInt8) ∈ bytes (c :: r) from hk)
      have hbounds := isMark_bounds (h.marks d hd)
      have hto := congrArg UInt8.toNat he
      rw [Nat.toUInt8_eq, UInt8.toNat_ofNat'] at hto
      have h45 : (45 : UInt8).toNat = 45 := rfl
      omega
  · intro he
    have hfirst := congrArg List.head? he
    exact absurd (Option.some.inj hfirst) (by decide)

/-- **A label with marks around it is written as the label, with the marks around it, exactly if the label has a plain form
that leaves room for the marks.** -/
theorem labelToAscii_around {label : List Char} {a : Bytes} (ends : Ends label a) (some : before ++ after ≠ []) :
    labelToAscii (before ++ label ++ after) = .ok (bytes before ++ a ++ bytes after)
      ↔ Fits (before.length + after.length) label := by
  have hplain := h.plain?_around label
  have hlength (w : Bytes) : (bytes before ++ w ++ bytes after).length = w.length + (before.length + after.length) := by
    simp only [List.length_append, bytes, List.length_map]
    omega
  cases hw : plain? label with
  | none =>
    rw [hw] at hplain
    refine iff_of_false (fun hwritten => ?_) (fun ⟨w, hfit, _⟩ => nomatch hw.symm.trans hfit)
    have hform := labelToAscii_of_not_plain hplain hwritten
    rw [h.form_around] at hform
    exact h.punycode_ne some a hform
  | some w =>
    rw [hw] at hplain
    rw [labelToAscii_of_plain hplain, ends_of_plain ends hw]
    constructor
    · intro hwritten
      have hfew := (checkLength_ok hwritten).2.2
      rw [hlength] at hfew
      exact ⟨w, hw, hfew⟩
    · rintro ⟨v, hv, hfew⟩
      cases hw.symm.trans hv
      have hpos : 0 < before.length + after.length := by
        rw [← List.length_append]
        exact List.length_pos_iff.2 some
      exact checkLength_of (by rw [hlength]; omega) (by rw [hlength]; exact hfew)

end Around

end HostName
end Transport
