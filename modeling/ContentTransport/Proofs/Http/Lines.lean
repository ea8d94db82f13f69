import ContentTransport.Http.Request
import ContentTransport.Proofs.Bytes
import ContentTransport.Proofs.Http.Segments
/-!
# Lines — heads and fields as a server writes them

A server writes a head as a status line, a line for each field and a blank line.  What is read back are the status and
the framing that the fields declare (`HeadBlock.leads_informing`, `HeadBlock.leads_final`).
-/
namespace Transport
namespace Http

/-! ## Blocks of lines -/

/-- A block of lines that ends with the last of some bytes. -/
inductive Ends : LineBlock → Bytes → List Bytes → Prop
  | last {s : LineBlock} {b : UInt8} {lines : List Bytes} (h : s.step b = .inr lines) : Ends s [b] lines
  | more {s t : LineBlock} {b : UInt8} {bs : Bytes} {lines : List Bytes} (h : s.step b = .inl t)
      (rest : Ends t bs lines) : Ends s (b :: bs) lines

theorem step_of_ne_lf {s : LineBlock} {b : UInt8} (h : b ≠ Bytes.lf) :
    s.step b = .inl { s with line := b :: s.line, size := s.size + 1, odd := if s.size == 0 then b ≤ 32 else s.odd } := by
  unfold LineBlock.step
  rw [if_neg (by simpa using h)]

theorem ends_line {ls out : List Bytes} {rest : Bytes} : ∀ (line acc : Bytes), Bytes.lf ∉ line →
    (∀ size odd, Ends ⟨ls, line.reverse ++ acc, size, odd⟩ rest out) →
      ∀ size odd, Ends ⟨ls, acc, size, odd⟩ (line ++ rest) out
  | [], _, _, h => h
  | b :: line, acc, hlf, h => fun size odd => by
    rw [List.mem_cons, not_or] at hlf
    refine .more (step_of_ne_lf (Ne.symm hlf.1)) (ends_line line (b :: acc) hlf.2 (fun size odd => ?_) _ _)
    have ht := h size odd
    rwa [List.reverse_cons, List.append_assoc] at ht

def IsLine (line : Bytes) : Prop := line ≠ [] ∧ Bytes.lf ∉ line

def blockBytes (lines : List Bytes) : Bytes := lines.flatMap (· ++ crlf) ++ crlf

theorem cr_ne_lf : Bytes.cr ≠ Bytes.lf := by decide

theorem step_endLine {line : Bytes} (h : line ≠ []) (ls : List Bytes) (size : Nat) (odd : Bool) :
    (⟨ls, Bytes.cr :: line.reverse, size, odd⟩ : LineBlock).step Bytes.lf = .inl ⟨line :: ls, [], size + 1, odd⟩ := by
  have hrev : line.reverse ≠ [] := by simpa using h
  unfold LineBlock.step
  rw [if_pos (by rfl)]
  cases hl : line.reverse with
  | nil => exact absurd hl hrev
  | cons b bs => simp [dropReturn, ← hl]

/-- A block ends at its blank line, and not before. -/
theorem ends_block : ∀ (lines done : List Bytes), (∀ l ∈ lines, IsLine l) →
    ∀ size odd, Ends ⟨done.reverse, [], size, odd⟩ (blockBytes lines) (done ++ lines)
  | [], done, _, size, odd => by
    refine .more (step_of_ne_lf cr_ne_lf) (.last ?_)
    simp [LineBlock.step, dropReturn]
  | line :: lines, done, h, size, odd => by
    obtain ⟨hne, hlf⟩ := h line List.mem_cons_self
    have hbytes : blockBytes (line :: lines) = line ++ (Bytes.cr :: Bytes.lf :: blockBytes lines) := by
      simp [blockBytes, crlf]
    rw [hbytes]
    refine ends_line line [] hlf (fun size odd => ?_) size odd
    rw [List.append_nil]
    refine .more (step_of_ne_lf cr_ne_lf) (.more (step_endLine hne _ _ _) ?_)
    have hrest := ends_block lines (done ++ [line]) (fun l hl => h l (List.mem_cons_of_mem _ hl))
    rw [List.append_assoc, List.reverse_append] at hrest
    exact hrest _ _

namespace Reader

theorem pausable_head {s : LineBlock} (hs : s.size ≤ longest) (ho : s.odd = false) : Pausable (.head s) := by
  refine pausable_of_eq ?_ nofun
  simp [pausePhase, ho, Nat.not_lt.2 hs]

theorem pausable_trailer {s : LineBlock} (hs : s.size ≤ longest) : Pausable (.trailer s) := by
  refine pausable_of_eq ?_ nofun
  simp [pausePhase, Nat.not_lt.2 hs]

theorem size_of_step {s t : LineBlock} {b : UInt8} (h : s.step b = .inl t) : t.size = s.size + 1 := by
  unfold LineBlock.step at h
  split at h
  · split at h
    · cases h
    · cases h
      rfl
  · cases h
    rfl

theorem odd_of_step {s t : LineBlock} {b : UInt8} (h : s.step b = .inl t) (hs : s.odd = false)
    (hb : s.size = 0 → 32 < b) : t.odd = false := by
  unfold LineBlock.step at h
  split at h
  · split at h
    · cases h
    · cases h
      exact hs
  · cases h
    by_cases h0 : s.size = 0
    · have hlt := hb h0
      simpa [h0] using hlt
    · simp [h0, hs]

/-- A head that is not too long and begins with a visible byte leads to what its end leads to. -/
theorem leads_head {s : LineBlock} {bytes : Bytes} {lines : List Bytes} {said : List Letter} {q : Phase}
    (h : Ends s bytes lines) (hsize : s.size + bytes.length ≤ longest + 1) (hodd : s.odd = false)
    (hfirst : s.size = 0 → ∀ b ∈ bytes.head?, 32 < b) (hq : Pausable q)
    (hfin : ∀ r : Reader, r.piece = [] →
      (r.finishHead lines).At q ∧ (r.finishHead lines).letters = r.letters ++ said) :
    Leads (.head s) bytes said q := by
  induction h with
  | @last s b lines hstep =>
    rw [← List.append_nil said]
    refine .cons (pausable_head (by simpa using hsize) hodd) (fun r hr => ?_) (leads_nil hq)
    have he : r.step b = r.finishHead lines := by
      unfold Reader.step
      rw [hr.phase]
      simp [hstep]
    rw [he]
    exact hfin r (hr.piece s rfl)
  | @more s t b bs lines hstep rest ih =>
    rw [List.length_cons] at hsize
    have ht := size_of_step hstep
    refine .cons_move (pausable_head (by omega) hodd) (fun r hr => ?_)
      (ih (by omega) (odd_of_step hstep hodd fun h0 => hfirst h0 b rfl) (fun h0 => by omega) hfin) fun _ _ => ⟨s, rfl⟩
    unfold Reader.step
    rw [hr]
    simp [hstep]

theorem leads_trailer {s : LineBlock} {bytes : Bytes} {lines : List Bytes} {fields : List Field}
    (h : Ends s bytes lines) (hsize : s.size + bytes.length ≤ longest + 1) (hfields : fieldsOfLines lines = .ok fields) :
    Leads (.trailer s) bytes [] (.complete []) := by
  induction h with
  | @last s b lines hstep =>
    refine .cons_move (pausable_trailer (by simpa using hsize)) (fun r hr => ?_) (leads_nil nofun) nofun
    unfold Reader.step
    rw [hr]
    simp [hstep, finishTrailer, hfields]
  | @more s t b bs lines hstep rest ih =>
    rw [List.length_cons] at hsize
    have ht := size_of_step hstep
    refine .cons_move (pausable_trailer (by omega)) (fun r hr => ?_) (ih (by omega) hfields) nofun
    unfold Reader.step
    rw [hr]
    simp [hstep]

end Reader

/-! ## Fields -/

/-- A field in its line, with spaces and tabs around the value. -/
structure FieldLine where
  field : Field
  before : Bytes
  after : Bytes
  name_isToken : isToken field.name = true
  value_isFieldValue : isFieldValue field.value = true
  before_isInline : before.all Bytes.isInline = true
  after_isInline : after.all Bytes.isInline = true

def FieldLine.bytes (l : FieldLine) : Bytes :=
  l.field.name ++ Bytes.colon :: (l.before ++ l.field.value ++ l.after)

theorem not_mem_of_all {p : UInt8 → Bool} {b : Bytes} {x : UInt8} (h : b.all p = true) (hx : p x = false) : x ∉ b := by
  intro hm
  rw [List.all_eq_true] at h
  rw [h x hm] at hx
  cases hx

theorem isInline_of_isVisible {b : UInt8} (h : isVisible b = true) : (!Bytes.isInline b) = true := by
  unfold isVisible Bytes.isWhite at h
  unfold Bytes.isInline
  by_cases h9 : b = 9
  · subst h9
    cases h
  · by_cases h32 : b = 32
    · subst h32
      cases h
    · simp [h9, h32]

theorem FieldLine.isLine (l : FieldLine) : IsLine l.bytes := by
  refine ⟨by simp [FieldLine.bytes], ?_⟩
  have hname := l.name_isToken
  have hvalue := l.value_isFieldValue
  simp only [isToken, Bool.and_eq_true] at hname
  simp only [isFieldValue, Bool.and_eq_true] at hvalue
  have h1 : Bytes.lf ∉ l.field.name := not_mem_of_all hname.2 (by decide)
  have h2 : Bytes.lf ∉ l.field.value := not_mem_of_all hvalue.1.1 (by decide)
  have h3 : Bytes.lf ∉ l.before := not_mem_of_all l.before_isInline (by decide)
  have h4 : Bytes.lf ∉ l.after := not_mem_of_all l.after_isInline (by decide)
  have h5 : Bytes.lf ≠ Bytes.colon := by decide
  simp [FieldLine.bytes, h1, h2, h3, h4, h5]

/-- A field reads back from its line. -/
theorem FieldLine.fieldOfLine_bytes (l : FieldLine) : fieldOfLine l.bytes = .ok l.field := by
  have hname := l.name_isToken
  have hvalue := l.value_isFieldValue
  simp only [isToken, Bool.and_eq_true] at hname
  simp only [isFieldValue, Bool.and_eq_true] at hvalue
  have hcolon : ∀ b ∈ l.field.name, (b != Bytes.colon) = true := by
    intro b hb
    have hne : b ≠ Bytes.colon := fun he => not_mem_of_all hname.2 (x := Bytes.colon) (by decide) (he ▸ hb)
    simpa using hne
  have htake : l.bytes.takeWhile (· != Bytes.colon) = l.field.name := by
    unfold FieldLine.bytes
    rw [List.takeWhile_append_of_pos hcolon]
    simp
  have hdrop : l.bytes.drop l.field.name.length = Bytes.colon :: (l.before ++ l.field.value ++ l.after) := by
    unfold FieldLine.bytes
    rw [List.drop_left]
  have hends : l.field.value.head?.all (!Bytes.isInline ·) = true
      ∧ l.field.value.getLast?.all (!Bytes.isInline ·) = true := by
    have hv := hvalue
    simp only [Option.all_eq_true] at hv ⊢
    exact ⟨fun b hb => isInline_of_isVisible (hv.1.2 b hb), fun b hb => isInline_of_isVisible (hv.2 b hb)⟩
  have htrim := Bytes.trim_pad l.before_isInline l.after_isInline hends.1 hends.2
  unfold fieldOfLine
  simp only [htake, hdrop, htrim]
  rw [if_pos (by rw [l.name_isToken, l.value_isFieldValue]; rfl)]

theorem FieldLine.head_bytes (l : FieldLine) : l.bytes.head?.any Bytes.isInline = false := by
  have hname := l.name_isToken
  simp only [isToken, Bool.and_eq_true] at hname
  unfold FieldLine.bytes
  cases hn : l.field.name with
  | nil => rfl
  | cons b name =>
    have hb : isTokenByte b = true := List.all_eq_true.1 hname.2 b (by simp [hn])
    have hmem (x : UInt8) (hx : isTokenByte x = false) : b ≠ x := by
      rintro rfl
      rw [hb] at hx
      cases hx
    have h32 := hmem 32 (by decide)
    have h9 := hmem 9 (by decide)
    simp [Bytes.isInline, h32, h9]

theorem unfold_eq : ∀ (lines : List Bytes) (line : Bytes), (∀ l ∈ lines, l.head?.any Bytes.isInline = false) →
    unfold line lines = line :: lines
  | [], _, _ => rfl
  | next :: lines, line, h => by
    rw [unfold, if_neg (by simp [h next List.mem_cons_self]),
      unfold_eq lines next fun l hl => h l (List.mem_cons_of_mem _ hl)]

theorem unfoldLines_eq (lines : List Bytes) (h : ∀ l ∈ lines, l.head?.any Bytes.isInline = false) :
    unfoldLines lines = .ok lines := by
  cases lines with
  | nil => rfl
  | cons line lines =>
    rw [unfoldLines, if_neg (by simp [h line List.mem_cons_self]),
      unfold_eq lines line fun l hl => h l (List.mem_cons_of_mem _ hl)]

theorem mapM_fieldOfLine : ∀ fields : List FieldLine,
    (fields.map FieldLine.bytes).mapM fieldOfLine = .ok (fields.map FieldLine.field)
  | [] => rfl
  | l :: fields => by
    rw [List.map_cons, List.mapM_cons, l.fieldOfLine_bytes, mapM_fieldOfLine fields]
    rfl

theorem fieldsOfLines_map (fields : List FieldLine) :
    fieldsOfLines (fields.map FieldLine.bytes) = (acceptFields (fields.map FieldLine.field)).mapError .field := by
  have hh : ∀ l ∈ fields.map FieldLine.bytes, l.head?.any Bytes.isInline = false := by
    intro l hl
    obtain ⟨f, -, rfl⟩ := List.mem_map.1 hl
    exact f.head_bytes
  unfold fieldsOfLines
  rw [unfoldLines_eq _ hh]
  simp only [bind, Except.bind, mapM_fieldOfLine]

/-! ## What fields declare -/

/-- A field that says how the body ends. -/
def Field.frames (f : Field) : Bool := f.isNamed "content-length" || f.isNamed "transfer-encoding"

/-- What the fields of a head declare of the body: at most one of them does, and it is understood. -/
inductive Declares : List Field → Framing → Prop
  | counted {before after : List Field} {f : Field} (others : ∀ g ∈ before ++ after, g.frames = false)
      (named : f.isNamed "content-length" = true) (digits : f.value.all Bytes.isDigit = true) (some : f.value ≠ [])
      (few : f.value.length ≤ 20) : Declares (before ++ f :: after) (.counted (Bytes.number 10 f.value))
  | chunked {before after : List Field} {f : Field} (others : ∀ g ∈ before ++ after, g.frames = false)
      (named : f.isNamed "transfer-encoding" = true) (coding : Bytes.lower f.value = Bytes.ofText "chunked") :
      Declares (before ++ f :: after) .chunked
  | untilEnd {fields : List Field} (others : ∀ g ∈ fields, g.frames = false) : Declares fields .untilEnd

theorem frames_eq_false {f : Field} (h : f.frames = false) :
    f.isNamed "content-length" = false ∧ f.isNamed "transfer-encoding" = false := by
  simpa [Field.frames] using h

theorem add_plain {f : Field} (h : f.frames = false) (a : Accepted) : a.add f = .ok { a with fields := f :: a.fields } := by
  obtain ⟨h1, h2⟩ := frames_eq_false h
  simp [Accepted.add, h1, h2]

theorem foldlM_add_plain : ∀ (fields : List Field) (a : Accepted), (∀ f ∈ fields, f.frames = false) →
    fields.foldlM Accepted.add a = .ok { a with fields := fields.reverse ++ a.fields }
  | [], _, _ => rfl
  | f :: fields, a, h => by
    rw [List.foldlM_cons, add_plain (h f List.mem_cons_self)]
    simp only [bind, Except.bind]
    rw [foldlM_add_plain fields _ fun g hg => h g (List.mem_cons_of_mem _ hg)]
    simp

theorem acceptFields_one {before after : List Field} {f g : Field} {a : Accepted}
    (others : ∀ g ∈ before ++ after, g.frames = false)
    (h : (⟨before.reverse ++ [], none, false⟩ : Accepted).add f = .ok a) (hg : a.fields = g :: (before.reverse ++ [])) :
    acceptFields (before ++ f :: after) = .ok (before ++ g :: after) := by
  unfold acceptFields
  rw [List.foldlM_append, foldlM_add_plain before _ fun x hx => others x (List.mem_append_left _ hx)]
  simp only [bind, Except.bind, List.foldlM_cons, h]
  rw [foldlM_add_plain after a fun x hx => others x (List.mem_append_right _ hx)]
  simp [hg, pure, Except.pure]

theorem members_none {name : String} {fields : List Field} (h : ∀ f ∈ fields, f.isNamed name = false) :
    members name fields = [] := by
  unfold members
  rw [List.filter_eq_nil_iff.2 fun f hf => by simp [h f hf]]
  rfl

theorem members_one {name : String} {before after : List Field} {f : Field}
    (others : ∀ g ∈ before ++ after, g.isNamed name = false) (named : f.isNamed name = true) :
    members name (before ++ f :: after)
      = ((Bytes.split Bytes.comma (Bytes.lower f.value)).map (Bytes.trim Bytes.isWhite)).filter (!·.isEmpty) := by
  have hb : before.filter (·.isNamed name) = [] :=
    List.filter_eq_nil_iff.2 fun g hg => by simp [others g (List.mem_append_left _ hg)]
  have ha : after.filter (·.isNamed name) = [] :=
    List.filter_eq_nil_iff.2 fun g hg => by simp [others g (List.mem_append_right _ hg)]
  unfold members
  rw [List.filter_append, List.filter_cons, if_pos named, hb, ha]
  simp

theorem not_named_of_named {f : Field} {name other : String} (h : f.isNamed name = true)
    (hne : (Bytes.ofText name == Bytes.ofText other) = false) : f.isNamed other = false := by
  unfold Field.isNamed at h ⊢
  rw [eq_of_beq h, hne]

theorem lower_of_digits {b : Bytes} (h : b.all Bytes.isDigit = true) : Bytes.lower b = b := by
  unfold Bytes.lower
  conv => rhs; rw [← List.map_id b]
  apply List.map_congr_left
  intro x hx
  have hd := (Bytes.isDigit_iff x).1 (List.all_eq_true.1 h x hx)
  have hno : ¬ (65 ≤ x ∧ x ≤ 90) := by
    rw [UInt8.le_iff_toNat_le]
    have h65 : (65 : UInt8).toNat = 65 := rfl
    omega
  rw [if_neg (by simpa using hno), id]

theorem isWhite_of_isDigit {x : UInt8} (h : Bytes.isDigit x = true) : Bytes.isWhite x = false := by
  have hd := (Bytes.isDigit_iff x).1 h
  have h32 : x ≠ 32 := by
    rintro rfl
    exact absurd hd (by decide)
  have h13 : ¬ x ≤ 13 := by
    rw [UInt8.le_iff_toNat_le]
    have h13 : (13 : UInt8).toNat = 13 := rfl
    omega
  simp [Bytes.isWhite, h32, h13]

theorem isVisible_of_isDigit {x : UInt8} (h : Bytes.isDigit x = true) : isVisible x = true := by
  have h0 : x ≠ 0 := by
    rintro rfl
    exact absurd h (by decide)
  simp [isVisible, isWhite_of_isDigit h, h0]

theorem parts_of_digits {b : Bytes} (h : b.all Bytes.isDigit = true) :
    (Bytes.split Bytes.comma b).map (Bytes.trim Bytes.isWhite) = [b] := by
  have hv : b.all (!Bytes.isWhite ·) = true := by
    rw [List.all_eq_true] at h ⊢
    intro x hx
    simp [isWhite_of_isDigit (h x hx)]
  obtain ⟨hh, hl⟩ := Bytes.all_ends hv
  rw [Bytes.split_of_not_mem (not_mem_of_all h (by decide)), List.map_cons, Bytes.trim_eq_self hh hl]
  rfl

theorem lengthOf_digits {b : Bytes} (h : b.all Bytes.isDigit = true) (hne : b ≠ []) (few : b.length ≤ 20) :
    lengthOf b = .ok b := by
  have hlen : ¬ b.length > 20 := Nat.not_lt.2 few
  unfold lengthOf
  simp [parts_of_digits h, hne, h, hlen]

theorem few_of_lengthOf {b l : Bytes} (h : b.all Bytes.isDigit = true) (hl : lengthOf b = .ok l) : b.length ≤ 20 := by
  unfold lengthOf at hl
  simp only [parts_of_digits h, List.all_nil, Bool.not_true, Bool.false_eq_true, if_false] at hl
  by_cases hmany : b.length > 20
  · simp [hmany] at hl
  · exact Nat.not_lt.1 hmany

/-- **Fields that declare a framing are accepted, and give that framing** to a head whose status lets it have a body. -/
theorem acceptFields_of_declares {fields : List Field} {framing : Framing} (h : Declares fields framing) :
    ∃ accepted, acceptFields fields = .ok accepted
      ∧ ∀ status, framingOf status accepted = if status == 204 || status == 304 then .counted 0 else framing := by
  cases h with
  | @counted before after f others named digits some few =>
    have hadd : (⟨before.reverse ++ [], none, false⟩ : Accepted).add f
        = .ok ⟨f :: (before.reverse ++ []), Option.some f.value, false⟩ := by
      simp [Accepted.add, named, lengthOf_digits digits some few, bind, Except.bind]
    have hno : ∀ g ∈ before ++ f :: after, g.isNamed "transfer-encoding" = false := by
      intro g hg
      rcases List.mem_append.1 hg with hg | hg
      · exact (frames_eq_false (others g (List.mem_append_left _ hg))).2
      · rcases List.mem_cons.1 hg with rfl | hg
        · exact not_named_of_named named (by decide)
        · exact (frames_eq_false (others g (List.mem_append_right _ hg))).2
    have hlength : members "content-length" (before ++ f :: after) = [f.value] := by
      rw [members_one (fun g hg => (frames_eq_false (others g hg)).1) named, lower_of_digits digits,
        parts_of_digits digits]
      simp [some]
    refine ⟨before ++ f :: after, acceptFields_one others hadd rfl, fun status => ?_⟩
    simp [framingOf, isChunked, members_none hno, contentLength?, hlength]
  | @chunked before after f others named coding =>
    have hcl : f.isNamed "content-length" = false := not_named_of_named named (by decide)
    have hadd : (⟨before.reverse ++ [], none, false⟩ : Accepted).add f
        = .ok ⟨{ f with value := Bytes.lower f.value } :: (before.reverse ++ []), none, true⟩ := by
      simp [Accepted.add, named, hcl, coding]
    have hmembers : members "transfer-encoding" (before ++ { f with value := Bytes.lower f.value } :: after)
        = [Bytes.ofText "chunked"] := by
      have hnamed : ({ f with value := Bytes.lower f.value } : Field).isNamed "transfer-encoding" = true := named
      rw [members_one (fun g hg => (frames_eq_false (others g hg)).2) hnamed]
      dsimp only
      rw [coding]
      decide
    refine ⟨_, acceptFields_one others hadd rfl, fun status => ?_⟩
    simp [framingOf, isChunked, hmembers]
  | untilEnd others =>
    have hcl := members_none fun f hf => (frames_eq_false (others f hf)).1
    have hte := members_none fun f hf => (frames_eq_false (others f hf)).2
    refine ⟨fields, ?_, fun status => ?_⟩
    · unfold acceptFields
      rw [foldlM_add_plain fields _ others]
      simp [bind, Except.bind, pure, Except.pure]
    · simp [framingOf, isChunked, hte, contentLength?, hcl]

/-! ## Heads -/

def statusLine (version : UInt8 × UInt8) (status : Nat) (reason : Option Bytes) : Bytes :=
  Bytes.ofText "HTTP/" ++ version.1 :: 46 :: version.2 :: 32 :: (Bytes.decimal status ++
    match reason with
    | none => []
    | some text => 32 :: text)

/-- A head as a server writes it. -/
structure HeadBlock where
  version : UInt8 × UInt8
  status : Nat
  reason : Option Bytes
  fields : List FieldLine
  framing : Framing
  version_isDigit : Bytes.isDigit version.1 = true ∧ Bytes.isDigit version.2 = true
  status_three : 100 ≤ status ∧ status ≤ 999
  reason_isLine : reason.all (·.all isLineByte) = true
  declares : Declares (fields.map FieldLine.field) framing
  short : (blockBytes (statusLine version status reason :: fields.map FieldLine.bytes)).length ≤ Reader.longest

namespace HeadBlock

def lines (h : HeadBlock) : List Bytes := statusLine h.version h.status h.reason :: h.fields.map FieldLine.bytes

def bytes (h : HeadBlock) : Bytes := blockBytes h.lines

/-- What the head says of its body: some statuses have none. -/
def ending (h : HeadBlock) : Framing := if h.status == 204 || h.status == 304 then .counted 0 else h.framing

theorem isLine_status (h : HeadBlock) : IsLine (statusLine h.version h.status h.reason) := by
  have hlf {b : UInt8} (hb : Bytes.isDigit b = true) : Bytes.lf ≠ b := by
    rintro rfl
    exact absurd hb (by decide)
  have h1 := hlf h.version_isDigit.1
  have h2 := hlf h.version_isDigit.2
  have h3 : Bytes.lf ∉ Bytes.decimal h.status := not_mem_of_all (Bytes.all_isDigit_decimal _) (by decide)
  have h4 : Bytes.lf ∉ Bytes.ofText "HTTP/" := by decide
  have h5 : Bytes.lf ≠ 46 := by decide
  have h6 : Bytes.lf ≠ 32 := by decide
  refine ⟨by simp [statusLine], ?_⟩
  have hreason := h.reason_isLine
  unfold statusLine
  cases hr : h.reason with
  | none => simp [h1, h2, h3, h4, h5, h6]
  | some text =>
    rw [hr] at hreason
    have h7 : Bytes.lf ∉ text := not_mem_of_all hreason (by decide)
    simp [h1, h2, h3, h4, h5, h6, h7]

theorem isLine_of_mem (h : HeadBlock) : ∀ l ∈ h.lines, IsLine l := by
  intro l hl
  rcases List.mem_cons.1 hl with rfl | hl
  · exact h.isLine_status
  · obtain ⟨f, -, rfl⟩ := List.mem_map.1 hl
    exact f.isLine

theorem statusOfLine_statusLine (h : HeadBlock) :
    statusOfLine (statusLine h.version h.status h.reason) = .ok (h.version, h.status) := by
  obtain ⟨a, b, c, hd⟩ := Bytes.decimal_three h.status_three.1 h.status_three.2
  have hdigits := Bytes.all_isDigit_decimal h.status
  have hnumber := Bytes.number_decimal h.status
  have hhttp : Bytes.ofText "HTTP/" = [72, 84, 84, 80, 47] := by decide
  have hreason := h.reason_isLine
  rw [hd] at hdigits hnumber
  have hall : [h.version.1, h.version.2, a, b, c].all Bytes.isDigit = true := by
    rw [List.all_cons, List.all_cons, h.version_isDigit.1, h.version_isDigit.2, hdigits]
    rfl
  unfold statusLine
  rw [hd, hhttp]
  cases hr : h.reason with
  | none => simp [statusOfLine, hall, hnumber]
  | some text =>
    rw [hr] at hreason
    have htext : text.all isLineByte = true := hreason
    simp [statusOfLine, hall, hnumber, htext]

theorem ofLines_lines (h : HeadBlock) :
    ∃ keepAlive, Head.ofLines h.lines
      = .ok (if h.status < 200 then .informing h.status else .final h.status keepAlive h.ending) := by
  obtain ⟨accepted, hok, hframing⟩ := acceptFields_of_declares h.declares
  have hfields : fieldsOfLines (h.fields.map FieldLine.bytes) = .ok accepted := by
    rw [fieldsOfLines_map, hok]
    rfl
  refine ⟨!asksToClose accepted && !isOld h.version, ?_⟩
  have hno : ¬ h.status < 100 := Nat.not_lt.2 h.status_three.1
  unfold Head.ofLines lines
  simp only [bind, Except.bind, h.statusOfLine_statusLine, hfields, hframing, if_neg hno]
  split <;> rfl

theorem leads {h : HeadBlock} {said : List Letter} {q : Phase} (hq : Reader.Pausable q)
    (hfin : ∀ r : Reader, r.piece = [] →
      (r.finishHead h.lines).At q ∧ (r.finishHead h.lines).letters = r.letters ++ said) :
    Reader.Leads (.head {}) h.bytes said q := by
  have hends : Ends {} h.bytes h.lines := ends_block h.lines [] h.isLine_of_mem 0 false
  have hshort : h.bytes.length ≤ Reader.longest := h.short
  refine Reader.leads_head hends (by simp only; omega) rfl (fun _ b hb => ?_) hq hfin
  have hhead : h.bytes.head? = some 72 := rfl
  rw [hhead, Option.mem_some_iff] at hb
  subst hb
  decide

/-- A head that informs is followed by another head. -/
theorem leads_informing {h : HeadBlock} (hs : h.status < 200) (hno : h.status ≠ 101) :
    Reader.Leads (.head {}) h.bytes [] (.head {}) := by
  obtain ⟨keepAlive, hok⟩ := h.ofLines_lines
  rw [if_pos hs] at hok
  refine leads (Reader.pausable_head (Nat.zero_le _) rfl) fun r hp => ?_
  have he : r.finishHead h.lines = r.move (.head {}) := by
    unfold Reader.finishHead
    rw [hok]
    simp [hno]
  rw [he]
  exact ⟨⟨rfl, fun _ _ => hp⟩, by simp⟩

/-- A final head says its status, and its body follows. -/
theorem leads_final {h : HeadBlock} (hs : 200 ≤ h.status) :
    Reader.Leads (.head {}) h.bytes [.inl h.status] (Reader.bodyPhase h.ending) := by
  obtain ⟨keepAlive, hok⟩ := h.ofLines_lines
  rw [if_neg (Nat.not_lt.2 hs)] at hok
  refine leads (Reader.pausable_bodyPhase _) fun r hp => ?_
  have he : r.finishHead h.lines = ({ r with events := .status h.status :: r.events, keepAlive := keepAlive } : Reader).move
      (Reader.bodyPhase h.ending) := by
    unfold Reader.finishHead
    rw [hok]
    exact Reader.beginBody_eq _ _
  rw [he]
  refine ⟨⟨rfl, fun _ _ => hp⟩, ?_⟩
  simp [Reader.letters, Reader.move, hp, spell, Event.letters]

end HeadBlock

end Http
end Transport
