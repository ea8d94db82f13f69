import ContentTransport.Proofs.Http.Cuts
/-!
# Truncated — what is left of a message that breaks off

A message that ends by itself, because its body is counted or comes in chunks, ends at its last byte and not before: the
end of the stream cuts it off wherever else it comes (`Message.closing_of_cut`).  Up to the last byte of its final head it
says nothing, and from there on its status (`Message.statusesOf_cut`).
-/
namespace Transport
namespace Http

namespace Reader

/-! ## Bytes that say nothing before their end -/

/-- In a phase, nothing is said before the end of some bytes. -/
def Mute (p : Phase) (bytes : Bytes) : Prop :=
  ∀ r : Reader, r.At p → ∀ cut rest, bytes = cut ++ rest → rest ≠ [] → (r.feed cut).letters = r.letters

theorem mute_nil (p : Phase) : Mute p [] := by
  intro r _ cut rest he hne
  rw [(List.append_eq_nil_iff.1 he.symm).1, feed_nil]

theorem Mute.append {p q : Phase} {xs ys : Bytes} (h : Mute p xs) (leads : Leads p xs [] q) (t : Mute q ys) :
    Mute p (xs ++ ys) := by
  intro r hr cut rest he hne
  obtain ⟨-, hat, hletters⟩ := leads r hr
  rw [List.append_nil] at hletters
  rcases List.append_eq_append_iff.1 he with ⟨ms, rfl, hys⟩ | ⟨ms, rfl, rfl⟩
  · rw [feed_append, t _ hat ms rest hys hne, hletters]
  · by_cases hms : ms = []
    · rw [hms, List.append_nil] at hletters
      exact hletters
    · exact h r hr cut ms rfl hms

theorem mute_head {s : LineBlock} {bytes : Bytes} {lines : List Bytes} (h : Ends s bytes lines) :
    Mute (.head s) bytes := by
  induction h with
  | @last s b lines _ =>
    intro r _ cut rest he hne
    cases cut with
    | nil => rw [feed_nil]
    | cons c cut =>
      have hnil : cut ++ rest = [] := ((List.cons.inj he).2).symm
      exact absurd (List.append_eq_nil_iff.1 hnil).2 hne
  | @more s t b bs lines hstep _ ih =>
    intro r hr cut rest he hne
    cases cut with
    | nil => rw [feed_nil]
    | cons c cut =>
      obtain ⟨rfl, hbs⟩ := List.cons.inj he
      have hmove : r.step b = r.move (.head t) := by
        unfold step
        rw [hr.phase]
        simp [hstep]
      have hrest := ih (r.move (.head t)) ⟨rfl, fun _ _ => hr.piece s rfl⟩ cut rest hbs hne
      rw [feed_cons, hmove, hrest, letters_move]

theorem feed_of_untilEnd {r : Reader} (h : r.phase = .untilEnd) (bytes : Bytes) : (r.feed bytes).phase = .untilEnd := by
  induction bytes generalizing r with
  | nil => exact h
  | cons b bytes ih =>
    rw [feed_cons]
    refine ih ?_
    unfold step
    rw [h]
    rfl

end Reader

namespace Message

variable {m : Message} {cut rest : Bytes}

/-! ## Where a message ends -/

/-- A message that ends by itself, and not with the stream or with its head. -/
structure Framed (m : Message) : Prop where
  bodied : m.status ≠ 204 ∧ m.status ≠ 304
  counted : m.head.framing ≠ .untilEnd

theorem Framed.leads (h : m.Framed) : Reader.Leads (.head {}) m.bytes m.letters (.complete []) := by
  have hending : m.head.ending = m.head.framing := if_neg (by simpa [status] using h.bodied)
  have hfinal := HeadBlock.leads_final m.isFinal
  rw [hending] at hfinal
  exact (leads_informing m.informing m.informs).append (hfinal.append (Content.leads_framed m.fits h.counted))

/-- Wherever a message is cut, nothing wrong shows. -/
theorem pausable_cut (h : m.bytes = cut ++ rest) (proposed : Bool) :
    Reader.Pausable (({ proposed := proposed } : Reader).feed cut).phase := by
  obtain ⟨q, -, hleads⟩ := m.leads
  exact (hleads _ (at_new proposed)).1 cut ⟨rest, h.symm⟩

/-- **A message that ends by itself is cut off by the end of the stream, wherever that comes before its last byte.** -/
theorem closing_of_cut (framed : m.Framed) (h : m.bytes = cut ++ rest) (hne : rest ≠ []) (proposed : Bool) :
    (({ proposed := proposed } : Reader).feed cut).closing = .cut false := by
  have hpause := pausable_cut h proposed
  obtain ⟨-, hat, -⟩ := framed.leads _ (at_new proposed)
  have hend := hat.phase
  rw [h, Reader.feed_append] at hend
  generalize ({ proposed := proposed } : Reader).feed cut = r at hpause hend
  unfold Reader.closing
  cases hp : r.phase with
  | complete surplus =>
    rw [Reader.feed_of_complete hp] at hend
    simp [hne] at hend
  | switched =>
    rw [Reader.feed_of_switched hp, hp] at hend
    cases hend
  | broken f => exact absurd (hp ▸ hpause) (Reader.not_pausable_broken f)
  | untilEnd =>
    rw [Reader.feed_of_untilEnd hp] at hend
    cases hend
  | _ =>
    rw [hp] at hpause
    rcases Reader.pausePhase_of_pausable hpause with hsame | ⟨hfeed, -⟩
    · rw [hsame]
      simp [Reader.atEnd, hp]
    · rw [hfeed]
      simp [Reader.atEnd, hp]

/-! ## What a message has said -/

/-- The heads of a message, up to the end of the final one. -/
def heading (m : Message) : Bytes := m.informing.flatMap HeadBlock.bytes ++ m.head.bytes

theorem leads_heading (m : Message) :
    Reader.Leads (.head {}) m.heading [.inl m.status] (Reader.bodyPhase m.head.ending) :=
  (leads_informing m.informing m.informs).append (HeadBlock.leads_final m.isFinal)

theorem mute_heading (m : Message) : Reader.Mute (.head {}) m.heading := by
  have hmute (b : HeadBlock) : Reader.Mute (.head {}) b.bytes :=
    Reader.mute_head (ends_block b.lines [] b.isLine_of_mem 0 false)
  have hall : ∀ hs : List HeadBlock, (∀ b ∈ hs, b.status < 200 ∧ b.status ≠ 101) →
      Reader.Mute (.head {}) (hs.flatMap HeadBlock.bytes) := by
    intro hs
    induction hs with
    | nil => exact fun _ => Reader.mute_nil _
    | cons b hs ih =>
      intro hinforms
      obtain ⟨hlt, hno⟩ := hinforms b List.mem_cons_self
      exact (hmute b).append (HeadBlock.leads_informing hlt hno) (ih fun c hc => hinforms c (List.mem_cons_of_mem _ hc))
  exact (hall m.informing m.informs).append (leads_informing m.informing m.informs) (hmute m.head)

/-- **A message that is cut has said its status if its final head has come to its end**, and nothing before. -/
theorem statusesOf_cut (h : m.bytes = cut ++ rest) (proposed : Bool) :
    statusesOf (({ proposed := proposed } : Reader).feed cut).letters
      = if cut.length < m.heading.length then [] else [m.status] := by
  have hsplit : m.heading ++ m.content.bytes = cut ++ rest := by
    rw [← h, heading, bytes, List.append_assoc]
  by_cases hlt : cut.length < m.heading.length
  · -- the cut is inside the heading, which is mute
    obtain ⟨ms, hms⟩ : cut <+: m.heading :=
      List.prefix_of_prefix_length_le ⟨rest, rfl⟩ ⟨m.content.bytes, hsplit⟩ (Nat.le_of_lt hlt)
    have hne : ms ≠ [] := by
      rintro rfl
      rw [List.append_nil] at hms
      exact Nat.lt_irrefl _ (hms ▸ hlt)
    rw [if_pos hlt, m.mute_heading _ (at_new proposed) cut ms hms.symm hne]
    rfl
  · -- the status has been said, and all that is said in the end is one status
    obtain ⟨ms, rfl⟩ : m.heading <+: cut :=
      List.prefix_of_prefix_length_le ⟨m.content.bytes, hsplit⟩ ⟨rest, rfl⟩ (Nat.le_of_not_lt hlt)
    obtain ⟨-, -, hhead⟩ := m.leads_heading _ (at_new proposed)
    obtain ⟨q, -, hleads⟩ := m.leads
    obtain ⟨-, -, hall⟩ := hleads _ (at_new proposed)
    have hsane : Reader.Sane (({ proposed := proposed } : Reader).feed m.heading) :=
      ((Reader.sane_new proposed).feed _).sane
    obtain ⟨said, hsaid⟩ := (hsane.feed ms).letters
    obtain ⟨more, hmore⟩ := ((hsane.feed ms).sane.feed rest).letters
    rw [← Reader.feed_append, ← Reader.feed_append, ← h, hall] at hmore
    rw [← Reader.feed_append, hhead] at hsaid
    rw [← hsaid] at hmore ⊢
    have hnew : ({ proposed := proposed } : Reader).letters = [] := rfl
    rw [hnew] at hmore ⊢
    have hone : m.status :: (statusesOf said ++ statusesOf more) = [m.status] := by
      rw [← statusesOf_letters, ← List.nil_append m.letters, ← hmore, statusesOf_append, statusesOf_append]
      rfl
    have hnone := (List.append_eq_nil_iff.1 (List.cons.inj hone).2).1
    rw [if_neg hlt, statusesOf_append, hnone]
    rfl

/-- However a message is cut into reads, none of them shows anything wrong. -/
theorem unbroken {reads : List Bytes} (h : m.bytes = reads.flatten ++ rest) (proposed : Bool) (f : ReplyFault) :
    (({ proposed := proposed } : Reader).hear reads).2.2 ≠ .broken f := by
  obtain ⟨q, -, hleads⟩ := m.leads
  obtain ⟨hcut, -, -⟩ := hleads _ (at_new proposed)
  rw [h] at hcut
  have htrails := (at_new proposed).trails.hear hcut.left
  have hpause := pausable_cut h proposed
  rw [Reader.standing_hear, htrails.standing]
  intro hbroken
  rcases Reader.phase_of_standing (by rw [hbroken]; exact nofun) with ⟨_, hp⟩ | hp | ⟨g, hp⟩
  · simp [Reader.standing, hp] at hbroken
  · simp [Reader.standing, hp] at hbroken
  · exact Reader.not_pausable_broken g (hp ▸ hpause)

end Message
end Http
end Transport
