import ContentTransport.Proofs.Session.Run
/-!
# Attachment — which header lists are attached, and which of them are released

That a list is attached is known twice: to the session, and to the list, which is joined to the session when it is
attached by `attach`.  A release takes the list off the session only if both agree.  So a released list is attached in two
cases, and in no others (`released_yet_attached`): it was attached after its release, or it was set past the list itself
and released then (`set_list_outlives_its_release`).  Apart from that a list is released once, and the release of one
list leaves another in its place, also where scopes of lists are nested and broken off by a fault.
-/
namespace Transport

/-! ## Acts -/

/-- What is done with the header lists of a session. -/
inductive ListAct
  | make
  | add (id : ListId) (name value : Value)
  | attach (id : ListId)
  | release (id : ListId)
  /-- The session is told which list is attached, or that none is; the list is not told. -/
  | set (l : Option ListId)

namespace ListAct

def perform (a : ListAct) (s : Session) : Except Fault Session :=
  match a with
  | make => .ok s.newList.2
  | add id name value => .ok (s.addField id name value).2
  | attach id => s.attach id
  | release id => .ok (s.release id)
  | set l => s.setHeaders l

/-- The session after an act; an act that is refused leaves it as it is. -/
def apply (a : ListAct) (s : Session) : Session := (a.perform s).toOption.getD s

def run (acts : List ListAct) (s : Session) : Session := acts.foldl (fun s a => a.apply s) s

/-- The list that an act is about. -/
def names? : ListAct → Option ListId
  | make => none
  | add id _ _ => some id
  | attach id => some id
  | release id => some id
  | set l => l

def makes : ListAct → Nat
  | make => 1
  | _ => 0

/-- What an act attaches, if it is one that attaches a list or none. -/
def sets? : ListAct → Option (Option ListId)
  | attach id => some (some id)
  | set l => some l
  | _ => none

/-- The lists that some acts make. -/
def made (acts : List ListAct) : Nat := acts.foldr (fun a n => a.makes + n) 0

/-- Where there are `n` lists, some acts are about lists that there are when their turn comes. -/
def Scoped (n : Nat) : List ListAct → Prop
  | [] => True
  | a :: acts => (∀ id ∈ a.names?, id < n) ∧ Scoped (n + a.makes) acts

/-- Nothing among some acts attaches a list or none. -/
def Quiet (acts : List ListAct) : Prop := ∀ a ∈ acts, a.sets? = none

/-- The acts that leave a list attached although it is released. -/
inductive Stranded (id : ListId) : List ListAct → Prop
  /-- The last act to attach anything attaches the list, which is released before. -/
  | late {pre post : List ListAct} {a : ListAct} (sets : a.sets? = some (some id)) (released : .release id ∈ pre)
    (quiet : Quiet post) : Stranded id (pre ++ a :: post)
  /-- The last act to attach anything sets the list past itself, `attach` has not joined it to the session before, and it
  is released after. -/
  | unjoined {pre post : List ListAct} (unjoined : .attach id ∉ pre) (released : .release id ∈ post)
    (quiet : Quiet post) : Stranded id (pre ++ .set (some id) :: post)

instance Scoped.decide (n : Nat) : ∀ acts, Decidable (Scoped n acts)
  | [] => inferInstanceAs (Decidable True)
  | a :: acts => @instDecidableAnd _ _ inferInstance (Scoped.decide (n + a.makes) acts)

theorem made_append (as bs : List ListAct) : made (as ++ bs) = made as + made bs := by
  induction as with
  | nil => exact (Nat.zero_add _).symm
  | cons a as ih => exact (congrArg (a.makes + ·) ih).trans (Nat.add_assoc _ _ _).symm

theorem scoped_append {as bs : List ListAct} :
    ∀ {n : Nat}, Scoped n (as ++ bs) ↔ Scoped n as ∧ Scoped (n + made as) bs := by
  induction as with
  | nil => intro n; exact ⟨fun h => ⟨trivial, h⟩, fun h => h.2⟩
  | cons a as ih =>
    intro n
    have hmade : n + a.makes + made as = n + made (a :: as) := by simp [made, Nat.add_assoc]
    simp only [List.cons_append, Scoped, ih, hmade, and_assoc]

/-- The last act to attach anything, if there is one. -/
theorem quiet_or_last (acts : List ListAct) :
    Quiet acts ∨ ∃ pre a post l, acts = pre ++ a :: post ∧ a.sets? = some l ∧ Quiet post := by
  induction acts with
  | nil => exact .inl nofun
  | cons a acts ih =>
    rcases ih with hquiet | ⟨pre, b, post, l, rfl, hb, hpost⟩
    · cases ha : a.sets? with
      | none => exact .inl (List.forall_mem_cons.2 ⟨ha, hquiet⟩)
      | some l => exact .inr ⟨[], a, acts, l, rfl, ha, hquiet⟩
    · exact .inr ⟨a :: pre, b, post, l, rfl, hb, hpost⟩

end ListAct

/-! ## Where a list stands -/

namespace HeaderList

/-- Whether the release of a list takes it off the session that it is joined to. -/
def leaves (l : HeaderList) : Bool := l.joined && !l.isReleased

/-- A list counts its release. -/
def Accounted (l : HeaderList) : Prop := l.releases = if l.isReleased then 1 else 0

theorem add_keeps (name value : Value) (l : HeaderList) :
    (l.add name value).2.isReleased = l.isReleased ∧ (l.add name value).2.joined = l.joined
      ∧ (l.add name value).2.releases = l.releases := by
  unfold add
  cases hc : l.content with
  | none => exact ⟨rfl, rfl, rfl⟩
  | some fields =>
    cases field? name value with
    | none => exact ⟨rfl, rfl, rfl⟩
    | some f => exact ⟨by simp [isReleased, hc], rfl, rfl⟩

theorem isReleased_release (l : HeaderList) : l.release.isReleased = true := by
  unfold release
  cases hc : l.content with
  | none => simp [isReleased, hc]
  | some fields => rfl

theorem Accounted.release {l : HeaderList} (h : l.Accounted) : l.release.Accounted := by
  unfold HeaderList.release
  cases hc : l.content with
  | none => exact h
  | some fields =>
    have hzero : l.releases = 0 := by simpa [Accounted, isReleased, hc] using h
    simp [Accounted, isReleased, hzero]

end HeaderList

namespace Session

/-- Whether a list of the session is released. -/
def released (id : ListId) (s : Session) : Bool := (s.list? id).any (·.isReleased)

/-- Whether a list of the session leaves it on release, if it is attached. -/
def leaves (id : ListId) (s : Session) : Bool := (s.list? id).any (·.leaves)

theorem unreleased_of_leaves {id : ListId} {s : Session} (h : s.leaves id = true) : s.released id = false := by
  unfold leaves at h
  unfold released
  cases hl : s.list? id with
  | none => rfl
  | some l =>
    rw [hl] at h
    simpa using (Bool.and_eq_true_iff.1 h).2

theorem list?_newList (id : ListId) (s : Session) :
    s.newList.2.list? id = if id = s.lists.length then some {} else s.list? id := by
  simp only [newList, list?, List.getElem?_append, List.getElem?_singleton]
  rcases Nat.lt_trichotomy id s.lists.length with h | h | h
  · rw [if_pos h, if_neg (Nat.ne_of_lt h)]
  · simp [h]
  · rw [if_neg (Nat.not_lt_of_gt h), if_neg (Nat.sub_ne_zero_of_lt h), if_neg (Nat.ne_of_gt h),
      List.getElem?_eq_none (Nat.le_of_lt h)]

/-- Writing a list back alters it, and no other. -/
theorem list?_putList {i : ListId} {l : HeaderList} {s : Session} (h : s.list? i = some l) (f : HeaderList → HeaderList)
    (id : ListId) : (s.putList i (f l)).list? id = (s.list? id).map fun l => if i = id then f l else l := by
  obtain ⟨hlt, hl⟩ := List.getElem?_eq_some_iff.1 h
  by_cases hi : i = id
  · subst hi
    simp [putList, list?, hlt, hl]
  · simp [putList, list?, hi]

theorem list?_of_absent {i : ListId} {s : Session} (h : s.list? i = none) (f : HeaderList → HeaderList) (id : ListId) :
    s.list? id = (s.list? id).map fun l => if i = id then f l else l := by
  by_cases hi : i = id
  · subst hi
    rw [h]
    rfl
  · simp [hi]

end Session

namespace ListAct

/-- What an act makes of a list that there is. -/
def alter (a : ListAct) (id : ListId) : HeaderList → HeaderList :=
  match a with
  | add i name value => fun l => if i = id then (l.add name value).2 else l
  | attach i => fun l => if i = id then { l with joined := true } else l
  | release i => fun l => if i = id then l.release else l
  | _ => fun l => l

theorem isReleased_alter (a : ListAct) (id : ListId) (l : HeaderList) :
    (a.alter id l).isReleased = true ↔ l.isReleased = true ∨ a = .release id := by
  cases a with
  | add i name value => by_cases hi : i = id <;> simp [alter, hi, (HeaderList.add_keeps name value l).1]
  | attach i => by_cases hi : i = id <;> simp [alter, hi, HeaderList.isReleased]
  | release i => by_cases hi : i = id <;> simp [alter, hi, HeaderList.isReleased_release]
  | _ => simp [alter]

theorem leaves_alter (a : ListAct) (id : ListId) (l : HeaderList) :
    (a.alter id l).leaves = true ↔ (l.leaves = true ∨ a = .attach id) ∧ (a.alter id l).isReleased = false := by
  cases a with
  | add i name value =>
    by_cases hi : i = id <;> simp [alter, hi, HeaderList.leaves, HeaderList.add_keeps name value l]
  | attach i => by_cases hi : i = id <;> simp [alter, hi, HeaderList.leaves]
  | release i => by_cases hi : i = id <;> simp [alter, hi, HeaderList.leaves, HeaderList.isReleased_release]
  | _ => simp [alter, HeaderList.leaves]

theorem accounted_alter {l : HeaderList} (h : l.Accounted) (a : ListAct) (id : ListId) : (a.alter id l).Accounted := by
  cases a with
  | add i name value =>
    by_cases hi : i = id
    · simpa [alter, hi, HeaderList.Accounted, HeaderList.add_keeps name value l] using h
    · simpa [alter, hi] using h
  | attach i => by_cases hi : i = id <;> simpa [alter, hi, HeaderList.Accounted, HeaderList.isReleased] using h
  | release i => by_cases hi : i = id <;> simp [alter, hi, h, h.release]
  | _ => exact h

variable {s : Session}

/-! ## One act -/

theorem perform_eq (opened : s.closed = false) (a : ListAct) : a.perform s = .ok (a.apply s) := by
  cases a with
  | attach id => simp [apply, perform, Session.attach, Session.setHeaders, Session.whenOpen, opened, bind, Except.bind,
      pure, Except.pure, Except.toOption]
  | set l => simp [apply, perform, Session.setHeaders, Session.whenOpen, opened, Except.toOption]
  | _ => rfl

theorem apply_attach (opened : s.closed = false) (id : ListId) :
    (attach id).apply s = { s with attached := some id, lists := s.lists.modify id ({ · with joined := true }) } := by
  simp [apply, perform, Session.attach, Session.setHeaders, Session.whenOpen, opened, bind, Except.bind, pure,
    Except.pure, Except.toOption]

theorem apply_set (opened : s.closed = false) (l : Option ListId) : (set l).apply s = { s with attached := l } := by
  simp [apply, perform, Session.setHeaders, Session.whenOpen, opened, Except.toOption]

/-- What an act makes of the lists: it may add one at the end, and it alters one that there is. -/
theorem list?_apply (opened : s.closed = false) (a : ListAct) (id : ListId) :
    (a.apply s).list? id = if id = s.lists.length ∧ a.makes = 1 then some {} else (s.list? id).map (a.alter id) := by
  cases a with
  | make =>
    show s.newList.2.list? id = _
    simpa [makes, alter] using Session.list?_newList id s
  | add i name value =>
    simp only [makes, Nat.zero_ne_one, and_false, if_false]
    show (s.addField i name value).2.list? id = _
    unfold Session.addField
    cases hi : s.list? i with
    | none => exact Session.list?_of_absent hi _ id
    | some l => exact Session.list?_putList hi (fun l => (l.add name value).2) id
  | attach i =>
    rw [apply_attach opened]
    simp only [makes, Nat.zero_ne_one, and_false, if_false]
    exact List.getElem?_modify ({ · with joined := true }) i s.lists id
  | release i =>
    simp only [makes, Nat.zero_ne_one, and_false, if_false]
    show (s.release i).list? id = _
    unfold Session.release
    cases hi : s.list? i with
    | none => exact Session.list?_of_absent hi _ id
    | some l => exact Session.list?_putList hi HeaderList.release id
  | set l =>
    rw [apply_set opened]
    simp [makes, alter, Session.list?]

theorem list?_apply_of_present (opened : s.closed = false) (a : ListAct) {id : ListId} {l : HeaderList}
    (h : s.list? id = some l) : (a.apply s).list? id = some (a.alter id l) := by
  have hlt : id < s.lists.length := (List.getElem?_eq_some_iff.1 h).1
  rw [list?_apply opened, if_neg fun hnew => Nat.ne_of_lt hlt hnew.1, h]
  rfl

theorem list?_apply_of_absent (opened : s.closed = false) (a : ListAct) {id : ListId} (h : s.list? id = none) :
    (a.apply s).list? id = none ∨ (a.apply s).list? id = some {} := by
  rw [list?_apply opened, h]
  split
  · exact .inr rfl
  · exact .inl rfl

theorem lt_of_absent {id i : ListId} (h : s.list? id = none) (known : i < s.lists.length) : i ≠ id := by
  rintro rfl
  exact Nat.not_le_of_lt known (List.getElem?_eq_none_iff.1 h)

theorem released_apply (opened : s.closed = false) {a : ListAct} (known : ∀ i ∈ a.names?, i < s.lists.length)
    (id : ListId) : (a.apply s).released id = true ↔ s.released id = true ∨ a = .release id := by
  cases h : s.list? id with
  | none =>
    have hother : a ≠ .release id := fun ha => lt_of_absent h (known id (by simp [ha, names?])) rfl
    rcases list?_apply_of_absent opened a h with ha | ha <;>
      simp [Session.released, h, ha, hother, HeaderList.isReleased]
  | some l => simpa [Session.released, h, list?_apply_of_present opened a h] using isReleased_alter a id l

theorem leaves_apply (opened : s.closed = false) {a : ListAct} (known : ∀ i ∈ a.names?, i < s.lists.length)
    (id : ListId) : (a.apply s).leaves id = true
      ↔ (s.leaves id = true ∨ a = .attach id) ∧ (a.apply s).released id = false := by
  cases h : s.list? id with
  | none =>
    have hother : a ≠ .attach id := fun ha => lt_of_absent h (known id (by simp [ha, names?])) rfl
    rcases list?_apply_of_absent opened a h with ha | ha <;>
      simp [Session.leaves, h, ha, hother, HeaderList.leaves]
  | some l =>
    simpa [Session.released, Session.leaves, h, list?_apply_of_present opened a h] using leaves_alter a id l

theorem closed_apply (opened : s.closed = false) (a : ListAct) : (a.apply s).closed = false := by
  cases a with
  | make => exact (Session.sameStream_newList s).closed.trans opened
  | add i name value => exact (Session.sameStream_addField i name value s).closed.trans opened
  | attach i => rw [apply_attach opened]; exact opened
  | release i => exact (Session.sameStream_release i s).closed.trans opened
  | set l => rw [apply_set opened]; exact opened

theorem length_apply (opened : s.closed = false) (a : ListAct) :
    (a.apply s).lists.length = s.lists.length + a.makes := by
  cases a with
  | make => exact List.length_append
  | add i name value =>
    show (s.addField i name value).2.lists.length = _
    unfold Session.addField
    split
    · rfl
    · exact List.length_set
  | attach i => rw [apply_attach opened]; exact List.length_modify _ _ _
  | release i =>
    show (s.release i).lists.length = _
    unfold Session.release
    split
    · rfl
    · exact List.length_set
  | set l => rw [apply_set opened]; rfl

theorem attached_of_sets (opened : s.closed = false) {a : ListAct} {l : Option ListId} (h : a.sets? = some l) :
    (a.apply s).attached = l := by
  cases a with
  | attach i => rw [apply_attach opened]; exact Option.some.inj h
  | set l => rw [apply_set opened]; exact Option.some.inj h
  | _ => cases h

theorem attached_release (opened : s.closed = false) (i : ListId) :
    (s.release i).attached = if s.leaves i = true ∧ s.attached = some i then none else s.attached := by
  unfold Session.release Session.leaves
  cases s.list? i with
  | none => simp
  | some l => simp [HeaderList.leaves, opened]

/-- An act that attaches nothing leaves a list attached, unless it is its release and the list leaves. -/
theorem attached_of_quiet (opened : s.closed = false) {a : ListAct} (h : a.sets? = none) (id : ListId) :
    (a.apply s).attached = some id ↔ s.attached = some id ∧ ¬(a = .release id ∧ s.leaves id = true) := by
  cases a with
  | make => simp [apply, perform, Except.toOption, Session.newList]
  | add i name value =>
    have hsame : (s.addField i name value).2.attached = s.attached := by
      unfold Session.addField
      split <;> rfl
    simp [apply, perform, Except.toOption, hsame]
  | release i =>
    show (s.release i).attached = some id ↔ _
    rw [attached_release opened]
    split
    · next hoff =>
      refine ⟨nofun, fun h => (h.2 ?_).elim⟩
      obtain rfl : i = id := Option.some.inj (hoff.2.symm.trans h.1)
      exact ⟨rfl, hoff.1⟩
    · next hon =>
      refine ⟨fun h => ⟨h, ?_⟩, fun h => h.1⟩
      rintro ⟨heq, hleaves⟩
      obtain rfl : i = id := ListAct.release.inj heq
      exact hon ⟨hleaves, h⟩
  | _ => cases h

/-! ## One act after another -/

theorem run_append (as bs : List ListAct) (s : Session) : run (as ++ bs) s = run bs (run as s) := List.foldl_append

theorem closed_run (acts : List ListAct) : ∀ {s : Session}, s.closed = false → (run acts s).closed = false := by
  induction acts with
  | nil => exact id
  | cons a acts ih => exact fun opened => ih (closed_apply opened a)

theorem length_run (acts : List ListAct) :
    ∀ {s : Session}, s.closed = false → (run acts s).lists.length = s.lists.length + made acts := by
  induction acts with
  | nil => exact fun _ => rfl
  | cons a acts ih =>
    intro s opened
    refine (ih (closed_apply opened a)).trans ?_
    rw [length_apply opened, Nat.add_assoc]
    rfl

/-- After some acts a list is released if it was before, or if they release it. -/
theorem released_run (id : ListId) {acts : List ListAct} : ∀ {s : Session}, s.closed = false →
    Scoped s.lists.length acts →
      ((run acts s).released id = true ↔ s.released id = true ∨ .release id ∈ acts) := by
  induction acts with
  | nil => intro s _ _; simp [run]
  | cons a acts ih =>
    intro s opened known
    have hrest := ih (closed_apply opened a) (length_apply opened a ▸ known.2)
    rw [released_apply opened known.1] at hrest
    rw [List.mem_cons, ← or_assoc, eq_comm (a := release id)]
    exact hrest

/-- A list that there is not yet is released after some acts if they release it. -/
theorem released_of_absent {acts : List ListAct} {id : ListId} (opened : s.closed = false)
    (known : Scoped s.lists.length acts) (absent : s.list? id = none) :
    (run acts s).released id = true ↔ .release id ∈ acts := by
  rw [released_run id opened known]
  simp [Session.released, absent]

/-- After some acts a list leaves on release if it did before or they attach it by itself, and it is not released. -/
theorem leaves_run (id : ListId) {acts : List ListAct} : ∀ {s : Session}, s.closed = false →
    Scoped s.lists.length acts →
      ((run acts s).leaves id = true ↔
        (s.leaves id = true ∨ .attach id ∈ acts) ∧ (run acts s).released id = false) := by
  induction acts with
  | nil =>
    intro s _ _
    simpa [run] using Session.unreleased_of_leaves
  | cons a acts ih =>
    intro s opened known
    have hknown := length_apply opened a ▸ known.2
    have hlasting := released_run id (closed_apply opened a) hknown
    rw [List.mem_cons, ← or_assoc, eq_comm (a := attach id)]
    refine (ih (closed_apply opened a) hknown).trans (and_congr_left fun hend => or_congr_left ?_)
    -- a list that is not released in the end is not released after the first act
    have hfirst : (a.apply s).released id = false := by
      rw [Bool.eq_false_iff]
      exact fun h => Bool.eq_false_iff.1 hend (hlasting.2 (.inl h))
    rw [leaves_apply opened known.1, and_iff_left hfirst]

/-- Acts that attach nothing leave a list attached, unless they release it and it leaves. -/
theorem attached_run (id : ListId) {acts : List ListAct} : ∀ {s : Session}, s.closed = false →
    Scoped s.lists.length acts → Quiet acts →
      ((run acts s).attached = some id ↔ s.attached = some id ∧ ¬(.release id ∈ acts ∧ s.leaves id = true)) := by
  induction acts with
  | nil => intro s _ _ _; simp [run]
  | cons a acts ih =>
    intro s opened known quiet
    have hknown := length_apply opened a ▸ known.2
    obtain ⟨hquiet, hrest⟩ := List.forall_mem_cons.1 quiet
    refine (ih (closed_apply opened a) hknown hrest).trans ?_
    rw [attached_of_quiet opened hquiet, and_assoc, List.mem_cons, eq_comm (a := release id), or_and_right, not_or]
    refine and_congr_right fun _ => and_congr_right fun hkept => not_congr (and_congr_right fun _ => ?_)
    -- the first act neither releases a list that leaves nor lets it leave
    have hunattached : a ≠ attach id := by
      rintro rfl
      cases hquiet
    rw [leaves_apply opened known.1, or_iff_left hunattached]
    refine ⟨fun h => h.1, fun h => ⟨h, Bool.eq_false_iff.2 fun hreleased => ?_⟩⟩
    rcases (released_apply opened known.1 id).1 hreleased with hbefore | hact
    · exact Bool.eq_false_iff.1 (Session.unreleased_of_leaves h) hbefore
    · exact hkept ⟨hact, h⟩

theorem accounted_run (id : ListId) (acts : List ListAct) : ∀ {s : Session}, s.closed = false →
    (∀ l, s.list? id = some l → l.Accounted) → ∀ l, (run acts s).list? id = some l → l.Accounted := by
  induction acts with
  | nil => exact fun _ h => h
  | cons a acts ih =>
    intro s opened h
    refine ih (closed_apply opened a) fun l hl => ?_
    rw [list?_apply opened] at hl
    split at hl
    · cases hl
      rfl
    · obtain ⟨m, hm, rfl⟩ := Option.map_eq_some_iff.1 hl
      exact accounted_alter (h m hm) a id

theorem ne_release_of_sets {a : ListAct} {l : Option ListId} (h : a.sets? = some l) (id : ListId) : a ≠ .release id := by
  rintro rfl
  cases h

/-- What is attached after some acts is what the last act to attach anything has attached, unless it has been released
since and was joined to the session, and not released, before. -/
theorem attached_of_last {pre post : List ListAct} {a : ListAct} {l : Option ListId} {id : ListId}
    (opened : s.closed = false) (known : Scoped s.lists.length (pre ++ a :: post)) (absent : s.list? id = none)
    (sets : a.sets? = some l) (quiet : Quiet post) :
    (run (pre ++ a :: post) s).attached = some id ↔
      l = some id ∧ ¬(.release id ∈ post ∧ (.attach id ∈ pre ∨ a = .attach id) ∧ .release id ∉ pre) := by
  rw [List.append_cons] at known ⊢
  obtain ⟨hpre, hpost⟩ := scoped_append.1 known
  rw [← length_run _ opened] at hpost
  have hattached : (run (pre ++ [a]) s).attached = l := by
    rw [run_append]
    exact attached_of_sets (closed_run pre opened) sets
  have hreleased : (run (pre ++ [a]) s).released id = true ↔ .release id ∈ pre := by
    rw [released_of_absent opened hpre absent]
    simp [(ne_release_of_sets sets id).symm]
  have hleaves : (run (pre ++ [a]) s).leaves id = true ↔ (.attach id ∈ pre ∨ a = .attach id) ∧ .release id ∉ pre := by
    rw [leaves_run id opened hpre, Bool.eq_false_iff, Ne, hreleased]
    simp [Session.leaves, absent, eq_comm]
  rw [run_append, attached_run id (closed_run _ opened) hpost quiet, hattached, hleaves]

/-- **A released list is attached in the two cases, and in no others.** -/
theorem stranded_iff {acts : List ListAct} {id : ListId} (opened : s.closed = false)
    (known : Scoped s.lists.length acts) (absent : s.list? id = none) (detached : s.attached ≠ some id) :
    (run acts s).attached = some id ∧ (run acts s).released id = true ↔ Stranded id acts := by
  rw [released_of_absent opened known absent]
  constructor
  · rintro ⟨hattached, hrelease⟩
    rcases quiet_or_last acts with hquiet | ⟨pre, a, post, l, rfl, hsets, hpost⟩
    · exact absurd ((attached_run id opened known hquiet).1 hattached).1 detached
    · obtain ⟨rfl, hstays⟩ := (attached_of_last opened known absent hsets hpost).1 hattached
      by_cases hpre : .release id ∈ pre
      · exact .late hsets hpre hpost
      · have hin : .release id ∈ post := by
          simpa [hpre, (ne_release_of_sets hsets id).symm] using hrelease
        have hnever : ¬(.attach id ∈ pre ∨ a = .attach id) := fun h => hstays ⟨hin, h, hpre⟩
        obtain ⟨hbefore, hlast⟩ := not_or.1 hnever
        cases a with
        | attach i => exact absurd (congrArg attach (Option.some.inj (Option.some.inj hsets))) hlast
        | set l =>
          cases hsets
          exact .unjoined hbefore hin hpost
        | _ => cases hsets
  · rintro (⟨hsets, hpre, hpost⟩ | ⟨hnever, hin, hpost⟩)
    · refine ⟨(attached_of_last opened known absent hsets hpost).2 ⟨rfl, fun h => h.2.2 hpre⟩, ?_⟩
      exact List.mem_append_left _ hpre
    · refine ⟨(attached_of_last opened known absent rfl hpost).2 ⟨rfl, fun h => ?_⟩, ?_⟩
      · exact h.2.1.elim hnever nofun
      · exact List.mem_append_right _ (List.mem_cons_of_mem _ hin)

/-- What there is to know of the lists made in some acts, `n` being the first, and of what is attached. -/
structure Attended (n : Nat) (acts : List ListAct) (t : Session) : Prop where
  /-- A released list is attached in the two cases, and in no others. -/
  stranded : ∀ id, n ≤ id → (t.attached = some id ∧ t.released id = true ↔ Stranded id acts)
  released : ∀ id, n ≤ id → (t.released id = true ↔ .release id ∈ acts)
  /-- A list is released once, or not at all. -/
  accounted : ∀ id l, n ≤ id → t.list? id = some l → l.Accounted
  /-- The release of a list takes no other list off the session. -/
  spared : ∀ id other, other ≠ id → t.attached = some other → (t.release id).attached = some other

theorem attended_run {acts : List ListAct} (opened : s.closed = false)
    (present : ∀ id ∈ s.attached, id < s.lists.length) (known : Scoped s.lists.length acts) :
    Attended s.lists.length acts (run acts s) where
  stranded id hid :=
    stranded_iff opened known (List.getElem?_eq_none hid) fun h => Nat.not_lt_of_le hid (present id h)
  released id hid := released_of_absent opened known (List.getElem?_eq_none hid)
  accounted id l hid := by
    have habsent : s.list? id = none := List.getElem?_eq_none hid
    exact accounted_run id acts opened (fun m hm => nomatch habsent.symm.trans hm) l
  spared id other hne hattached := by
    rw [attached_release (closed_run acts opened), if_neg, hattached]
    exact fun h => hne (Option.some.inj (hattached.symm.trans h.2))

/-! ## Scopes -/

/-- How the scope of a new list begins, of number `n`. -/
def opening (n : ListId) (fields : List (Value × Value)) : List ListAct :=
  make :: fields.map (fun f => add n f.1 f.2) ++ [attach n]

theorem made_opening (n : ListId) (fields : List (Value × Value)) : made (opening n fields) = 1 := by
  have hadds : made (fields.map fun f => add n f.1 f.2) = 0 := by
    induction fields with
    | nil => rfl
    | cons f fields ih => exact (Nat.zero_add _).trans ih
  rw [opening, made_append]
  exact congrArg (1 + · + 0) hadds

/-- A step with a new list is the acts that open its scope, the step, and the release, however the step ends. -/
theorem withList_eq {α : Type} (opened : s.closed = false) (fields : List (Value × Value))
    (step : Session → Except Fault α × Session) :
    s.withList fields step = (s.lists.length, (step (run (opening s.lists.length fields) s)).1,
      (step (run (opening s.lists.length fields) s)).2.release s.lists.length) := by
  have hadd : s.newList.2.addFields s.lists.length fields
      = run (make :: fields.map fun f => add s.lists.length f.1 f.2) s := by
    show _ = run (fields.map fun f => add s.lists.length f.1 f.2) s.newList.2
    rw [run, List.foldl_map]
    rfl
  have hattach : (s.newList.2.addFields s.lists.length fields).attach s.lists.length
      = .ok (run (opening s.lists.length fields) s) := by
    rw [hadd, opening, run_append]
    exact perform_eq (closed_run _ opened) (attach s.lists.length)
  unfold Session.withList
  simp only [Session.newList] at hattach ⊢
  rw [hattach]

end ListAct

/-- A piece of a program that works with header lists. -/
inductive ListScript
  | nothing
  | act (a : ListAct)
  | fail (f : Fault)
  | seq (p q : ListScript)
  /-- A piece whose fault is handled, whatever it is. -/
  | caught (p : ListScript)
  /-- A piece in the scope of a list that there is. -/
  | within (id : ListId) (p : ListScript)
  /-- A piece in the scope of a new list, with some fields and attached. -/
  | scope (fields : List (Value × Value)) (p : ListScript)

namespace ListScript

open ListAct (made opening)

def run : ListScript → Session → Except Fault Unit × Session
  | nothing, s => (.ok (), s)
  | act a, s =>
    match a.perform s with
    | .ok t => (.ok (), t)
    | .error f => (.error f, s)
  | fail f, s => (.error f, s)
  | seq p q, s =>
    match p.run s with
    | (.ok _, t) => q.run t
    | (.error f, t) => (.error f, t)
  | caught p, s => (.ok (), (p.run s).2)
  | within id p, s => ((p.run s).1, (p.run s).2.release id)
  | scope fields p, s => (s.withList fields p.run).2

/-- How a piece ends on a session that is not closed. -/
def ending : ListScript → Except Fault Unit
  | nothing => .ok ()
  | act _ => .ok ()
  | fail f => .error f
  | seq p q =>
    match p.ending with
    | .ok _ => q.ending
    | .error f => .error f
  | caught _ => .ok ()
  | within _ p => p.ending
  | scope _ p => p.ending

/-- What a piece does, where there are `n` lists before it. -/
def acts : ListScript → Nat → List ListAct
  | nothing, _ => []
  | act a, _ => [a]
  | fail _, _ => []
  | seq p q, n =>
    match p.ending with
    | .ok _ => p.acts n ++ q.acts (n + made (p.acts n))
    | .error _ => p.acts n
  | caught p, n => p.acts n
  | within id p, n => p.acts n ++ [.release id]
  | scope fields p, n => opening n fields ++ p.acts (n + 1) ++ [.release n]

/-- A piece of a program does its acts, one after another, and ends as it does. -/
theorem run_eq (x : ListScript) : ∀ {s : Session}, s.closed = false →
    x.run s = (x.ending, ListAct.run (x.acts s.lists.length) s) := by
  induction x with
  | nothing => exact fun _ => rfl
  | act a =>
    intro s opened
    rw [run, ListAct.perform_eq opened]
    rfl
  | fail f => exact fun _ => rfl
  | seq p q ihp ihq =>
    intro s opened
    rw [run, ihp opened, ending, acts]
    cases p.ending with
    | error f => rfl
    | ok _ =>
      have hclosed := ListAct.closed_run (p.acts s.lists.length) opened
      simp only [ihq hclosed, ListAct.length_run _ opened, ListAct.run_append]
  | caught p ih =>
    intro s opened
    rw [run, ih opened]
    rfl
  | within id p ih =>
    intro s opened
    rw [run, ih opened, acts, ListAct.run_append]
    rfl
  | scope fields p ih =>
    intro s opened
    have hclosed := ListAct.closed_run (opening s.lists.length fields) opened
    have hlength := (ListAct.length_run (opening s.lists.length fields) opened).trans
      (congrArg (s.lists.length + ·) (ListAct.made_opening _ _))
    rw [run, ListAct.withList_eq opened, ih hclosed, hlength, acts, ListAct.run_append, ListAct.run_append]
    rfl

end ListScript

namespace ListAct

/-- **A released list is attached in two cases, and in no others.**  What a program does with header lists on a session
that is not closed, it does without a fault of its own, and at every point of it the lists that it has made are attended
to: one that is released is attached only if the last act to attach anything attaches it after its release, or has set
it past the list, unjoined, and it is released later; none is released twice, and the release of one takes no other off. -/
theorem released_yet_attached {s : Session} (x : ListScript) (opened : s.closed = false)
    (present : ∀ id ∈ s.attached, id < s.lists.length)
    (known : Scoped s.lists.length (x.acts s.lists.length)) :
    x.run s = (x.ending, run (x.acts s.lists.length) s)
      ∧ ∀ acts, acts <+: x.acts s.lists.length → Attended s.lists.length acts (run acts s) := by
  refine ⟨x.run_eq opened, fun acts hacts => attended_run opened present ?_⟩
  obtain ⟨rest, hrest⟩ := hacts
  rw [← hrest] at known
  exact (scoped_append.1 known).1

/-- The scope of a list within that of another, broken off by a fault that is handled, and its list attached again. -/
def nested : ListScript :=
  .scope [(.text "A", .text "1")] (.seq (.caught (.scope [] (.fail .listener))) (.act (.attach 1)))

/-- The list of the inner scope is attached although it is released, and the end of the outer scope leaves it so. -/
theorem released_yet_attached_nested :
    Scoped 0 (nested.acts 0) ∧ nested.run {} = (.ok (), run (nested.acts 0) {})
      ∧ (nested.run {}).2.attached = some 1 ∧ (nested.run {}).2.released 1 = true := by
  have hknown : Scoped 0 (nested.acts 0) := by decide
  obtain ⟨hrun, hattended⟩ := released_yet_attached (s := {}) nested rfl nofun hknown
  have hquiet : Quiet [.release 0] := by
    rintro a (_ | ⟨_, ⟨⟩⟩)
    rfl
  have hstranded : Stranded 1 (nested.acts 0) :=
    @Stranded.late 1 [.make, .add 0 (.text "A") (.text "1"), .attach 0, .make, .attach 1, .release 1] [.release 0]
      (.attach 1) rfl (by simp) hquiet
  refine ⟨hknown, hrun, ?_⟩
  rw [hrun]
  exact ((hattended _ (List.prefix_refl _)).stranded 1 (Nat.zero_le 1)).2 hstranded

/-- A list that is set past itself outlives its release on the session. -/
theorem set_list_outlives_its_release :
    (run [.make, .set (some 0), .release 0] {}).attached = some 0
      ∧ (run [.make, .set (some 0), .release 0] {}).released 0 = true := ⟨rfl, rfl⟩

end ListAct
end Transport
