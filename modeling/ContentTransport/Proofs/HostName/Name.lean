import ContentTransport.Proofs.Bytes
import ContentTransport.Proofs.HostName.Label
/-!
# Name — a whole host name, and what stands around it

A name is written label by label (`toAscii_iff`), so marks around a name are marks around its first and its last label.
The name with marks around it is written as the name with the marks around it exactly if these two labels are plain and
leave room for the marks (`toAscii_around`); if one of them is plain and leaves no room, it is refused
(`toAscii_around_full`).
-/
namespace Transport
namespace HostName

/-! ## Labels -/

/-- Marks around a sequence of labels stand in front of the first and behind the last. -/
def around (before after : List Char) : List (List Char) → List (List Char)
  | [] => []
  | [l] => [before ++ l ++ after]
  | l :: m :: r => (before ++ l) :: around [] after (m :: r)

theorem around_ne_nil {before after : List Char} {ls : List (List Char)} (some : ls ≠ []) :
    around before after ls ≠ [] := by
  fun_cases around before after ls
  · exact absurd rfl some
  · exact List.cons_ne_nil _ _
  · exact List.cons_ne_nil _ _

theorem labels_cons (c : Char) (name : List Char) : labels (c :: name) =
    if isDot c then [] :: labels name else match labels name with
      | [] => [[c]]
      | p :: ps => (c :: p) :: ps := rfl

theorem labels_ne_nil (name : List Char) : labels name ≠ [] := by
  cases name with
  | nil => exact List.cons_ne_nil _ _
  | cons c name =>
    rw [labels_cons]
    split
    · exact List.cons_ne_nil _ _
    · split <;> exact List.cons_ne_nil _ _

theorem labels_of_undotted : ∀ {cs : List Char}, (∀ c ∈ cs, isDot c = false) → labels cs = [cs]
  | [], _ => rfl
  | c :: cs, h => by
    obtain ⟨hc, hcs⟩ := List.forall_mem_cons.1 h
    rw [labels_cons, hc, labels_of_undotted hcs]
    rfl

theorem labels_append {after : List Char} (undotted : ∀ c ∈ after, isDot c = false) (name : List Char) :
    labels (name ++ after) = around [] after (labels name) := by
  induction name with
  | nil => exact labels_of_undotted undotted
  | cons c name ih =>
    rw [List.cons_append, labels_cons, labels_cons, ih]
    split
    · obtain ⟨l, r, hl⟩ := List.exists_cons_of_ne_nil (labels_ne_nil name)
      rw [hl]
      rfl
    · obtain ⟨l, r, hl⟩ := List.exists_cons_of_ne_nil (labels_ne_nil name)
      rw [hl]
      cases r <;> rfl

theorem isDot_of_ascii {c : Char} (h : c.toNat < 128) (other : c ≠ '.') : isDot c = false := by
  simp only [isDot, Bool.or_eq_false_iff, beq_eq_false_iff_ne]
  exact ⟨⟨⟨other, by omega⟩, by omega⟩, by omega⟩

theorem Around.labels_around {before after : List Char} (h : Around before after) (name : List Char) :
    labels (before ++ name ++ after) = around before after (labels name) := by
  have hafter : ∀ c ∈ after, isDot c = false := fun c hc => isDot_of_ascii (h.ascii.2 c hc) fun he => by
    have hmark := h.marks c hc
    rw [he] at hmark
    cases hmark
  rcases h.front with rfl | rfl
  · exact labels_append hafter name
  · rw [List.append_assoc, List.singleton_append, labels_cons, labels_append hafter]
    obtain ⟨l, r, hl⟩ := List.exists_cons_of_ne_nil (labels_ne_nil name)
    rw [hl]
    cases r <;> rfl

/-! ## A name in ASCII -/

/-- Labels and the bytes of the name that they make up.  Every label but the last is written in ASCII on its own, and so
is the last, unless it is empty. -/
inductive Joined : List (List Char) → Bytes → Prop
  | last {l : List Char} {a : Bytes} (ends : Ends l a) : Joined [l] a
  | next {l : List Char} {a : Bytes} {ls : List (List Char)} {b : Bytes} (written : labelToAscii l = .ok a)
      (rest : Joined ls b) : Joined (l :: ls) (a ++ 46 :: b)

theorem Joined.ne_nil {ls : List (List Char)} {b : Bytes} (h : Joined ls b) : ls ≠ [] := by
  cases h <;> exact List.cons_ne_nil _ _

theorem joined_singleton {l : List Char} {b : Bytes} : Joined [l] b ↔ Ends l b := by
  constructor
  · intro h
    cases h with
    | last ends => exact ends
    | next _ rest => exact absurd rfl rest.ne_nil
  · exact .last

theorem joined_cons {l : List Char} {ls : List (List Char)} {b : Bytes} (more : ls ≠ []) :
    Joined (l :: ls) b ↔ ∃ a b', labelToAscii l = .ok a ∧ Joined ls b' ∧ b = a ++ 46 :: b' := by
  constructor
  · intro h
    cases h with
    | last => exact absurd rfl more
    | next written rest => exact ⟨_, _, written, rest, rfl⟩
  · rintro ⟨a, b', written, rest, rfl⟩
    exact .next written rest

/-- The labels before the last are written one by one. -/
theorem joined_concat {ls : List (List Char)} {l : List Char} {b : Bytes} : Joined (ls ++ [l]) b ↔
    ∃ ws a, ls.mapM labelToAscii = .ok ws ∧ Ends l a ∧ b = [46].intercalate (ws ++ [a]) := by
  induction ls generalizing b with
  | nil =>
    rw [List.nil_append, joined_singleton]
    constructor
    · exact fun ends => ⟨[], b, rfl, ends, List.intercalate_singleton.symm⟩
    · rintro ⟨ws, a, hws, ends, rfl⟩
      cases hws
      exact List.intercalate_singleton.symm ▸ ends
  | cons m ls ih =>
    rw [List.cons_append, joined_cons (List.append_ne_nil_of_right_ne_nil _ (List.cons_ne_nil _ _))]
    constructor
    · rintro ⟨w, b', written, rest, rfl⟩
      obtain ⟨ws, a, hws, ends, rfl⟩ := ih.1 rest
      refine ⟨w :: ws, a, ?_, ends, (Bytes.intercalate_cons (by simp)).symm⟩
      rw [List.mapM_cons, written, hws]
      rfl
    · rintro ⟨ws, a, hws, ends, rfl⟩
      rw [List.mapM_cons] at hws
      obtain ⟨w, hw, hws⟩ := bind_ok hws
      obtain ⟨vs, hvs, hws⟩ := bind_ok hws
      cases hws
      exact ⟨w, _, hw, ih.2 ⟨vs, a, hvs, ends, rfl⟩, Bytes.intercalate_cons (by simp)⟩

/-! ### Names of ASCII -/

theorem labelToAscii_of_ascii {l : List Char} (ascii : ∀ c ∈ l, c.toNat < 128) :
    labelToAscii l = checkLength (bytes l) :=
  labelToAscii_of_plain (by rw [plain?, ascii?_of_ascii ascii]; rfl)

theorem ends_of_ascii {l : List Char} {a : Bytes} (ascii : ∀ c ∈ l, c.toNat < 128) :
    Ends l a ↔ a = bytes l ∧ (bytes l).length < 64 := by
  unfold Ends
  rw [labelToAscii_of_ascii ascii]
  constructor
  · rintro (h | ⟨rfl, rfl⟩)
    · exact ⟨(checkLength_ok h).1, (checkLength_ok h).2.2⟩
    · exact ⟨rfl, by decide⟩
  · rintro ⟨rfl, hfew⟩
    cases l with
    | nil => exact .inr ⟨rfl, rfl⟩
    | cons c l => exact .inl (checkLength_of (Nat.succ_pos _) hfew)

theorem joined_of_ascii {ls : List (List Char)} {b : Bytes} (some : ls ≠ [])
    (ascii : ∀ l ∈ ls, ∀ c ∈ l, c.toNat < 128) :
    Joined ls b ↔ checkLabels (ls.map bytes) = .ok () ∧ b = [46].intercalate (ls.map bytes) := by
  induction ls generalizing b with
  | nil => exact absurd rfl some
  | cons l ls ih =>
    obtain ⟨hl, hls⟩ := List.forall_mem_cons.1 ascii
    cases ls with
    | nil =>
      rw [joined_singleton, ends_of_ascii hl, List.map_singleton, checkLabels, List.intercalate_singleton, and_comm]
      simp
    | cons m ls =>
      have hmap : (m :: ls).map bytes ≠ [] := List.cons_ne_nil _ _
      rw [joined_cons (List.cons_ne_nil _ _), List.map_cons, Bytes.intercalate_cons hmap, labelToAscii_of_ascii hl]
      constructor
      · rintro ⟨a, b', written, rest, rfl⟩
        obtain ⟨hcheck, rfl⟩ := (ih (List.cons_ne_nil _ _) hls).1 rest
        obtain ⟨rfl, hpos, hfew⟩ := checkLength_ok written
        refine ⟨?_, rfl⟩
        rw [List.map_cons, checkLabels, decide_eq_true hpos, decide_eq_true hfew]
        exact hcheck
      · rintro ⟨hcheck, rfl⟩
        rw [List.map_cons, checkLabels] at hcheck
        split at hcheck
        · rename_i hlength
          rw [Bool.and_eq_true, decide_eq_true_eq, decide_eq_true_eq] at hlength
          have hrest := (ih (List.cons_ne_nil _ _) hls).2 ⟨hcheck, rfl⟩
          exact ⟨bytes l, _, checkLength_of hlength.1 hlength.2, hrest, rfl⟩
        · cases hcheck

theorem ascii_labels {name : List Char} (ascii : ∀ c ∈ name, c.toNat < 128) :
    ∀ l ∈ labels name, ∀ c ∈ l, c.toNat < 128 := by
  induction name with
  | nil => exact fun l hl c hc => by rw [List.mem_singleton.1 hl] at hc; cases hc
  | cons c name ih =>
    obtain ⟨hc, hname⟩ := List.forall_mem_cons.1 ascii
    have hrest := ih hname
    rw [labels_cons]
    split
    · exact List.forall_mem_cons.2 ⟨fun _ h => absurd h List.not_mem_nil, hrest⟩
    · obtain ⟨l, r, hl⟩ := List.exists_cons_of_ne_nil (labels_ne_nil name)
      rw [hl] at hrest ⊢
      obtain ⟨hfirst, hothers⟩ := List.forall_mem_cons.1 hrest
      exact List.forall_mem_cons.2 ⟨List.forall_mem_cons.2 ⟨hc, hfirst⟩, hothers⟩

theorem split_bytes {name : List Char} (ascii : ∀ c ∈ name, c.toNat < 128) :
    Bytes.split 46 (bytes name) = (labels name).map bytes := by
  induction name with
  | nil => rfl
  | cons c name ih =>
    obtain ⟨hc, hname⟩ := List.forall_mem_cons.1 ascii
    have hdot : (c.toNat.toUInt8 == 46) = isDot c := by
      by_cases hstop : c = '.'
      · rw [hstop]
        rfl
      · rw [isDot_of_ascii hc hstop, beq_eq_false_iff_ne]
        intro he
        have hto := congrArg UInt8.toNat he
        rw [Nat.toUInt8_eq, UInt8.toNat_ofNat'] at hto
        have h46 : (46 : UInt8).toNat = '.'.toNat := rfl
        exact hstop (Char.toNat_inj.1 (by omega))
    obtain ⟨l, r, hl⟩ := List.exists_cons_of_ne_nil (labels_ne_nil name)
    have hsplit := (Bytes.split_cons 46 c.toNat.toUInt8 (bytes name)).trans (by rw [hdot, ih hname, hl])
    rw [labels_cons, hl]
    refine hsplit.trans ?_
    split <;> rfl

/-! ### All names -/

theorem eq_nil_of_labels {name : List Char} (h : labels name = [[]]) : name = [] := by
  cases name with
  | nil => rfl
  | cons c name =>
    obtain ⟨l, r, hl⟩ := List.exists_cons_of_ne_nil (labels_ne_nil name)
    rw [labels_cons, hl] at h
    split at h <;> cases h

theorem ends_nil {a : Bytes} : Ends [] a ↔ a = [] := by
  rw [ends_of_ascii fun _ h => absurd h List.not_mem_nil]
  exact ⟨And.left, fun h => ⟨h, by decide⟩⟩

theorem ends_of_ne_nil {l : List Char} {a : Bytes} (some : l ≠ []) : Ends l a ↔ labelToAscii l = .ok a :=
  or_iff_left fun h => some h.1

theorem mapM_concat {ls : List (List Char)} {l : List Char} {vs : List Bytes} :
    (ls ++ [l]).mapM labelToAscii = .ok vs ↔
      ∃ ws a, ls.mapM labelToAscii = .ok ws ∧ labelToAscii l = .ok a ∧ vs = ws ++ [a] := by
  rw [List.mapM_append]
  constructor
  · intro h
    obtain ⟨ws, hws, h⟩ := bind_ok h
    obtain ⟨as, has, h⟩ := bind_ok h
    rw [List.mapM_cons] at has
    obtain ⟨a, ha, has⟩ := bind_ok has
    cases has
    cases h
    exact ⟨ws, a, hws, ha, rfl⟩
  · rintro ⟨ws, a, hws, ha, rfl⟩
    rw [hws, List.mapM_cons, ha]
    rfl

theorem mapM_ne_nil {ls : List (List Char)} {ws : List Bytes} (some : ls ≠ []) (h : ls.mapM labelToAscii = .ok ws) :
    ws ≠ [] := by
  obtain ⟨l, r, rfl⟩ := List.exists_cons_of_ne_nil some
  rw [List.mapM_cons] at h
  obtain ⟨w, -, h⟩ := bind_ok h
  obtain ⟨vs, -, h⟩ := bind_ok h
  cases h
  exact List.cons_ne_nil _ _

theorem unicodeToAscii_iff {name : List Char} {b : Bytes} (some : name ≠ []) :
    unicodeToAscii name = .ok b ↔ Joined (labels name) b := by
  obtain ⟨ls, l, hl⟩ := (List.eq_nil_or_concat (labels name)).resolve_left (labels_ne_nil name)
  rw [List.concat_eq_append] at hl
  unfold unicodeToAscii
  dsimp only
  rw [hl, joined_concat, List.getLast?_concat]
  by_cases hlast : l = []
  · rw [hlast] at hl ⊢
    have hls : ls ≠ [] := by
      rintro rfl
      exact some (eq_nil_of_labels hl)
    rw [if_pos (BEq.refl _), List.dropLast_concat]
    constructor
    · intro h
      obtain ⟨ws, hws, h⟩ := bind_ok h
      cases h
      exact ⟨ws, [], hws, ends_nil.2 rfl, (Bytes.intercalate_concat (mapM_ne_nil hls hws) []).symm⟩
    · rintro ⟨ws, a, hws, ends, rfl⟩
      rw [hws, ends_nil.1 ends, Bytes.intercalate_concat (mapM_ne_nil hls hws)]
      rfl
  · have hother : (Option.some l == Option.some []) = false := by
      rw [beq_eq_false_iff_ne]
      exact fun h => hlast (Option.some.inj h)
    rw [hother, if_neg Bool.false_ne_true]
    constructor
    · intro h
      obtain ⟨vs, hvs, h⟩ := bind_ok h
      cases h
      obtain ⟨ws, a, hws, ha, rfl⟩ := mapM_concat.1 hvs
      exact ⟨ws, a, hws, (ends_of_ne_nil hlast).2 ha, List.append_nil _⟩
    · rintro ⟨ws, a, hws, ends, rfl⟩
      rw [mapM_concat.2 ⟨ws, a, hws, (ends_of_ne_nil hlast).1 ends, rfl⟩]
      exact congrArg Except.ok (List.append_nil _)

/-- **A name is written exactly if its labels are.** -/
theorem toAscii_iff {name : List Char} {b : Bytes} : toAscii name = .ok b ↔ Joined (labels name) b := by
  unfold toAscii
  cases hascii : Bytes.ascii? name with
  | some own =>
    obtain ⟨hall, rfl⟩ := ascii?_eq_some.1 hascii
    rw [joined_of_ascii (labels_ne_nil name) (ascii_labels hall), ← split_bytes hall, Bytes.intercalate_split]
    dsimp only
    constructor
    · intro h
      obtain ⟨_, hcheck, h⟩ := bind_ok h
      exact ⟨hcheck, (Except.ok.inj h).symm⟩
    · rintro ⟨hcheck, rfl⟩
      rw [hcheck]
      rfl
  | none =>
    refine unicodeToAscii_iff ?_
    rintro rfl
    cases hascii

/-! ## A name with marks around it -/

/-- Nothing stands at a label, or it leaves room for what does. -/
def EdgeFits (more : Nat) (label : List Char) : Prop := more = 0 ∨ Fits more label

/-- The first and the last label leave room for what stands in front of the one and behind the other. -/
def EdgesFit (before after : Nat) : List (List Char) → Prop
  | [] => True
  | [l] => EdgeFits (before + after) l
  | l :: m :: r => EdgeFits before l ∧ EdgesFit 0 after (m :: r)

instance (more : Nat) (label : List Char) : Decidable (EdgeFits more label) :=
  inferInstanceAs (Decidable (more = 0 ∨ Fits more label))

instance edgesFitDecidable : (before after : Nat) → (ls : List (List Char)) → Decidable (EdgesFit before after ls)
  | _, _, [] => inferInstanceAs (Decidable True)
  | before, after, [l] => inferInstanceAs (Decidable (EdgeFits (before + after) l))
  | before, after, l :: m :: r =>
    have := edgesFitDecidable 0 after (m :: r)
    inferInstanceAs (Decidable (EdgeFits before l ∧ EdgesFit 0 after (m :: r)))

theorem edgeFits_zero (label : List Char) : EdgeFits 0 label := .inl rfl

/-- A label has a plain form that leaves no room for more bytes. -/
def Full (more : Nat) (label : List Char) : Prop := more ≠ 0 ∧ ∃ w, plain? label = some w ∧ 64 ≤ w.length + more

/-- The first or the last label leaves no room for what stands in front of the one or behind the other. -/
def EdgeFull (before after : Nat) : List (List Char) → Prop
  | [] => False
  | [l] => Full (before + after) l
  | l :: m :: r => Full before l ∨ EdgeFull 0 after (m :: r)

namespace Around

variable {before after : List Char} (h : Around before after)

include h

theorem ends_around {label : List Char} {a : Bytes} (ends : Ends label a) :
    Ends (before ++ label ++ after) (bytes before ++ a ++ bytes after)
      ↔ EdgeFits (before.length + after.length) label := by
  by_cases some : before ++ after = []
  · obtain ⟨rfl, rfl⟩ := List.append_eq_nil_iff.1 some
    refine iff_of_true ?_ (edgeFits_zero label)
    simpa [bytes] using ends
  · have hne : before ++ label ++ after ≠ [] := fun he => some (by simp_all)
    have hlength : before.length + after.length ≠ 0 := by
      rw [← List.length_append]
      exact fun h => some (List.length_eq_zero_iff.1 h)
    rw [ends_of_ne_nil hne, h.labelToAscii_around ends some]
    exact (or_iff_right hlength).symm

theorem front_only : Around before [] := ⟨h.front, .inl rfl, fun _ h => absurd h List.not_mem_nil⟩

theorem back_only : Around [] after := ⟨.inl rfl, h.back, h.marks⟩

/-- A label behind a bracket is the label with the bracket, unless it is written in Punycode. -/
theorem front_label {l : List Char} {a a' : Bytes} (written : labelToAscii l = .ok a)
    (marked : labelToAscii (before ++ l) = .ok a') : a' = bytes before ++ a ∨ ∃ r, a' = bytes mark ++ r := by
  have hplain := h.front_only.plain?_around l
  rw [List.append_nil] at hplain
  cases hw : plain? l with
  | some w =>
    rw [hw] at hplain
    have hmarked : a' = bytes before ++ w ++ bytes [] := ends_of_plain (.inl marked) hplain
    rw [ends_of_plain (.inl written) hw, hmarked]
    exact .inl (List.append_nil _)
  | none =>
    rw [hw] at hplain
    exact .inr ⟨_, labelToAscii_of_not_plain hplain marked⟩

/-- Marks behind a sequence of labels. -/
theorem joined_append {ls : List (List Char)} {b : Bytes} (joined : Joined ls b) :
    Joined (around [] after ls) (b ++ bytes after) ↔ EdgesFit 0 after.length ls := by
  induction joined with
  | last ends => exact joined_singleton.trans (h.back_only.ends_around ends)
  | @next l a ls b written rest ih =>
    obtain ⟨m, r, rfl⟩ := List.exists_cons_of_ne_nil rest.ne_nil
    refine (joined_cons (around_ne_nil rest.ne_nil)).trans ?_
    rw [EdgesFit, and_iff_right (edgeFits_zero l), ← ih, List.append_assoc, List.cons_append, List.nil_append]
    constructor
    · rintro ⟨a', b', hl, hrest, he⟩
      cases written.symm.trans hl
      rw [(List.cons.inj (List.append_cancel_left he)).2]
      exact hrest
    · exact fun hrest => ⟨a, _, written, hrest, rfl⟩

/-- Marks around a sequence of labels. -/
theorem joined_around {ls : List (List Char)} {b : Bytes} (joined : Joined ls b) :
    Joined (around before after ls) (bytes before ++ b ++ bytes after) ↔ EdgesFit before.length after.length ls := by
  cases joined with
  | last ends => exact joined_singleton.trans (h.ends_around ends)
  | @next l a ls b written rest =>
    obtain ⟨m, r, rfl⟩ := List.exists_cons_of_ne_nil rest.ne_nil
    have hfirst := h.front_only.ends_around (.inl written)
    have hne : before ++ l ≠ [] := fun he => by
      rw [(List.append_eq_nil_iff.1 he).2] at written
      cases written
    rw [List.append_nil, ends_of_ne_nil hne, bytes_nil, List.append_nil] at hfirst
    refine (joined_cons (around_ne_nil rest.ne_nil)).trans ?_
    rw [EdgesFit, ← h.joined_append rest]
    have hwhole : bytes before ++ (a ++ 46 :: b) ++ bytes after = (bytes before ++ a) ++ 46 :: (b ++ bytes after) := by
      simp
    rw [hwhole]
    constructor
    · rintro ⟨a', b', hl, hrest, he⟩
      have ha : a' = bytes before ++ a := by
        rcases h.front_label written hl with ha | ⟨x, rfl⟩
        · exact ha
        · rcases h.front with rfl | rfl
          · exact Except.ok.inj (hl.symm.trans written)
          · exact absurd (Option.some.inj (congrArg List.head? he)) (by decide)
      subst ha
      refine ⟨hfirst.1 hl, ?_⟩
      rw [(List.cons.inj (List.append_cancel_left he)).2]
      exact hrest
    · rintro ⟨hfit, hrest⟩
      exact ⟨_, _, hfirst.2 hfit, hrest, rfl⟩

theorem not_ends_of_full {l : List Char} {a : Bytes} (full : Full (before.length + after.length) l) :
    ¬Ends (before ++ l ++ after) a := by
  obtain ⟨hmore, w, hw, hlong⟩ := full
  have hplain := h.plain?_around l
  rw [hw, Option.map_some] at hplain
  rintro (hwritten | ⟨hnil, -⟩)
  · rw [labelToAscii_of_plain hplain] at hwritten
    have hfew := (checkLength_ok hwritten).2.2
    simp only [List.length_append, bytes, List.length_map] at hfew
    omega
  · have hlength := congrArg List.length hnil
    simp only [List.length_append, List.length_nil] at hlength
    omega

theorem not_joined_of_full {ls : List (List Char)} {b : Bytes} (full : EdgeFull before.length after.length ls) :
    ¬Joined (around before after ls) b := by
  induction ls generalizing before b with
  | nil => exact full.elim
  | cons l ls ih =>
    cases ls with
    | nil => exact fun joined => h.not_ends_of_full full (joined_singleton.1 joined)
    | cons m r =>
      intro joined
      obtain ⟨a, b', written, rest, -⟩ := (joined_cons (around_ne_nil (List.cons_ne_nil m r))).1 joined
      rcases full with full | full
      · refine h.front_only.not_ends_of_full full (a := a) (.inl ?_)
        rw [List.append_nil]
        exact written
      · exact ih h.back_only full rest

/-- **A name whose first or last label leaves no room is refused with marks around it.** -/
theorem toAscii_around_full {name : List Char} (full : EdgeFull before.length after.length (labels name)) :
    ∃ f, toAscii (before ++ name ++ after) = .error f := by
  cases hall : toAscii (before ++ name ++ after) with
  | error f => exact ⟨f, rfl⟩
  | ok b =>
    rw [toAscii_iff, h.labels_around] at hall
    exact absurd hall (h.not_joined_of_full full)

/-- **A name with marks around it is written as the name, with the marks around it, exactly if its first and its last label
have plain forms that leave room for the marks.** -/
theorem toAscii_around {name : List Char} {b : Bytes} (written : toAscii name = .ok b) :
    toAscii (before ++ name ++ after) = .ok (bytes before ++ b ++ bytes after)
      ↔ EdgesFit before.length after.length (labels name) := by
  rw [toAscii_iff, h.labels_around]
  exact h.joined_around (toAscii_iff.1 written)

end Around

end HostName
end Transport
