import ContentTransport.HeaderList
import ContentTransport.Proofs.Http.Request
/-!
# HeaderList — what a header list takes

A list takes a field if its name is a token and its value, without the blanks around it, is a line of Latin-1; it holds
what it has taken, in order, as entries and as fields (`Entered`).  So no value can end its line in a request, and no name
can, but for one thing: a name may end in a line feed.  A request with such a name is never written (`header_grammar`).
-/
namespace Transport
namespace HeaderList

/-! ## The grammar -/

/-- The marks, the digits and the letters of ASCII. -/
def isTokenChar (c : Char) : Bool := "!#$%&'*+-.^_`|~".toList.contains c || c.isAlphanum

/-- A tab, or a character of Latin-1 that is no control character of ASCII. -/
def isValueChar (c : Char) : Bool :=
  c == '\t' || (0x20 ≤ c.toNat && c.toNat ≤ 0x7e) || (0x80 ≤ c.toNat && c.toNat ≤ 0xff)

def IsToken (s : String) : Prop := s ≠ "" ∧ ∀ c ∈ s.toList, isTokenChar c = true

/-- A name that a list takes: a token, which one line feed may follow. -/
def IsNamed (n : String) : Prop := IsToken n ∨ ∃ t, IsToken t ∧ n = t ++ "\n"

/-- A field that a list takes, as the texts of its name and its value. -/
structure Taken (name value : Value) (n v : String) : Prop where
  name : name = .text n
  value : ∃ t, value = .text t ∧ v = String.ofList (Text.strip t.toList)
  named : IsNamed n
  line : ∀ c ∈ v.toList, isValueChar c = true

/-! ## Characters and bytes -/

theorem toNat_toUInt8 {c : Char} (h : c.toNat < 256) : c.toNat.toUInt8.toNat = c.toNat := by
  simp [Nat.mod_eq_of_lt h]

theorem toNat_lt_of_isTokenChar {c : Char} (h : isTokenChar c = true) : c.toNat < 128 := by
  unfold isTokenChar at h
  rw [Bool.or_eq_true, List.contains_iff_mem] at h
  rcases h with h | h
  · have hmarks : ("!#$%&'*+-.^_`|~".toList.all fun m => m.toNat < 128) = true := by decide
    exact of_decide_eq_true (List.all_eq_true.1 hmarks c h)
  · change ((decide (65 ≤ c.val ∧ c.val ≤ 90) || (decide (97 ≤ c.val) && decide (c.val ≤ 122)))
      || (decide (48 ≤ c.val) && decide (c.val ≤ 57))) = true at h
    simp only [Bool.or_eq_true, Bool.and_eq_true, decide_eq_true_eq, UInt32.le_iff_toNat_le] at h
    have hval : c.toNat = c.val.toNat := rfl
    rw [hval]
    rcases h with (⟨-, h⟩ | ⟨-, h⟩) | ⟨-, h⟩ <;> exact Nat.lt_of_le_of_lt h (by decide)

theorem toNat_lt_of_isValueChar {c : Char} (h : isValueChar c = true) : c.toNat < 256 := by
  unfold isValueChar at h
  simp only [Bool.or_eq_true, Bool.and_eq_true, beq_iff_eq, decide_eq_true_eq] at h
  rcases h with (rfl | h) | h
  · decide
  · omega
  · omega

theorem isTokenByte_eq {c : Char} (h : c.toNat < 128) : Http.isTokenByte c.toNat.toUInt8 = isTokenChar c := by
  have hall : ∀ n : Fin 128, Http.isTokenByte n.val.toUInt8 = isTokenChar (Char.ofNat n) := by decide +kernel
  have hc := hall ⟨c.toNat, h⟩
  rwa [Char.ofNat_toNat] at hc

theorem isValueByte_eq {c : Char} (h : c.toNat < 256) : isValueByte c.toNat.toUInt8 = isValueChar c := by
  have hall : ∀ n : Fin 256, isValueByte n.val.toUInt8 = isValueChar (Char.ofNat n) := by decide +kernel
  have hc := hall ⟨c.toNat, h⟩
  rwa [Char.ofNat_toNat] at hc

theorem text_ofText {s : String} (h : ∀ c ∈ s.toList, c.toNat < 256) : Bytes.text (Bytes.ofText s) = s := by
  have hmap : s.toList.map (fun c => Char.ofNat c.toNat.toUInt8.toNat) = s.toList := by
    refine (List.map_congr_left fun c hc => ?_).trans (List.map_id _)
    rw [toNat_toUInt8 (h c hc), Char.ofNat_toNat]
    rfl
  unfold Bytes.text Bytes.ofText
  rw [List.map_map]
  exact (congrArg String.ofList hmap).trans String.ofList_toList

theorem below?_eq_some {limit : Nat} {cs : List Char} {b : Bytes} :
    Bytes.below? limit cs = some b ↔ (∀ c ∈ cs, c.toNat < limit) ∧ b = cs.map fun c => c.toNat.toUInt8 := by
  unfold Bytes.below?
  by_cases h : cs.all (fun c => decide (c.toNat < limit)) = true
  · rw [if_pos h, Option.some.injEq]
    simp only [List.all_eq_true, decide_eq_true_eq] at h
    exact ⟨fun hb => ⟨h, hb.symm⟩, fun hb => hb.2.symm⟩
  · rw [if_neg h]
    simp only [List.all_eq_true, decide_eq_true_eq] at h
    exact ⟨nofun, fun hb => absurd hb.1 h⟩

theorem isToken_ofText {s : String} (h : ∀ c ∈ s.toList, c.toNat < 128) :
    Http.isToken (Bytes.ofText s) = true ↔ IsToken s := by
  have hall : (Bytes.ofText s).all Http.isTokenByte = true ↔ ∀ c ∈ s.toList, isTokenChar c = true := by
    unfold Bytes.ofText
    rw [List.all_map, List.all_eq_true]
    refine forall₂_congr fun c hc => ?_
    rw [Function.comp_apply, isTokenByte_eq (h c hc)]
  have hempty : (!(Bytes.ofText s).isEmpty) = true ↔ s ≠ "" := by
    simp [Bytes.ofText]
  unfold Http.isToken IsToken
  rw [Bool.and_eq_true, hall, hempty]

theorem not_isToken_lf (t : String) : ¬IsToken (t ++ "\n") := by
  rintro ⟨-, htoken⟩
  have hlf := htoken '\n' (by simp)
  exact absurd hlf (by decide)

theorem ofText_lf (t : String) : Bytes.ofText (t ++ "\n") = Bytes.ofText t ++ [Bytes.lf] := by
  unfold Bytes.ofText
  rw [String.toList_append, List.map_append]
  rfl

theorem getLast?_ofText {n : String} (h : ∀ c ∈ n.toList, c.toNat < 128) (last : (Bytes.ofText n).getLast? = some Bytes.lf) :
    ∃ t, n = t ++ "\n" := by
  obtain ⟨c, hc, hlf⟩ : ∃ c, n.toList.getLast? = some c ∧ c.toNat.toUInt8 = Bytes.lf := by
    unfold Bytes.ofText at last
    rw [List.getLast?_map, Option.map_eq_some_iff] at last
    exact last
  obtain ⟨cs, hcs⟩ := List.getLast?_eq_some_iff.1 hc
  have hlt := h c (by rw [hcs]; exact List.mem_append_right _ List.mem_cons_self)
  have hnat : c.toNat = 10 := by
    rw [← toNat_toUInt8 (Nat.lt_trans hlt (by decide)), hlf]
    rfl
  refine ⟨String.ofList cs, String.toList_inj.1 ?_⟩
  rw [hcs, String.toList_append, String.toList_ofList, ← Char.ofNat_toNat c, hnat]
  rfl

theorem isName_ofText {n : String} (h : ∀ c ∈ n.toList, c.toNat < 128) :
    isName (Bytes.ofText n) = true ↔ IsNamed n := by
  unfold isName IsNamed
  by_cases hlast : (Bytes.ofText n).getLast? = some Bytes.lf
  · obtain ⟨t, rfl⟩ := getLast?_ofText h hlast
    have ht : ∀ c ∈ t.toList, c.toNat < 128 := fun c hc => h c (by rw [String.toList_append]; exact List.mem_append_left _ hc)
    rw [if_pos (beq_iff_eq.2 hlast), ofText_lf, List.dropLast_concat, isToken_ofText ht]
    constructor
    · exact fun htoken => .inr ⟨t, htoken, rfl⟩
    · rintro (htoken | ⟨t', htoken, ht'⟩)
      · exact absurd htoken (not_isToken_lf t)
      · rwa [(String.append_left_inj "\n").1 ht']
  · rw [if_neg (fun hyes => hlast (beq_iff_eq.1 hyes)), isToken_ofText h]
    refine ⟨.inl, ?_⟩
    rintro (htoken | ⟨t, -, rfl⟩)
    · exact htoken
    · rw [ofText_lf, List.getLast?_concat] at hlast
      exact absurd rfl hlast

theorem IsNamed.ascii {n : String} (h : IsNamed n) : ∀ c ∈ n.toList, c.toNat < 128 := by
  intro c hc
  rcases h with ⟨-, htoken⟩ | ⟨t, ⟨-, htoken⟩, rfl⟩
  · exact toNat_lt_of_isTokenChar (htoken c hc)
  · rw [String.toList_append, List.mem_append] at hc
    rcases hc with hc | hc
    · exact toNat_lt_of_isTokenChar (htoken c hc)
    · obtain rfl : c = '\n' := by simpa using hc
      decide

/-- A field as the bytes of its name and its value. -/
def fieldOf (n v : String) : Http.Field := ⟨Bytes.ofText n, Bytes.ofText v⟩

/-- A field as the text that shows it. -/
def entryOf (n v : String) : String := n ++ ": " ++ v

theorem all_isValueByte {cs : List Char} (h : ∀ c ∈ cs, c.toNat < 256) :
    (cs.map fun c => c.toNat.toUInt8).all isValueByte = true ↔ ∀ c ∈ cs, isValueChar c = true := by
  rw [List.all_map, List.all_eq_true]
  refine forall₂_congr fun c hc => ?_
  rw [Function.comp_apply, isValueByte_eq (h c hc)]

/-- **The fields that two values can give are those of the grammar.** -/
theorem field?_eq_some {name value : Value} {f : Http.Field} :
    field? name value = some f ↔ ∃ n v, Taken name value n v ∧ f = fieldOf n v := by
  constructor
  · intro h
    cases name with
    | text n =>
      cases value with
      | text t =>
        simp only [field?, Option.bind_eq_bind, Option.bind_eq_some_iff] at h
        obtain ⟨b, hb, b', hb', h⟩ := h
        split at h
        · rename_i hgrammar
          rw [Bool.and_eq_true] at hgrammar
          obtain ⟨hascii, rfl⟩ := below?_eq_some.1 hb
          obtain ⟨hlatin, rfl⟩ := below?_eq_some.1 hb'
          cases h
          refine ⟨n, String.ofList (Text.strip t.toList), ⟨rfl, ⟨t, rfl, rfl⟩, (isName_ofText hascii).1 hgrammar.1, ?_⟩, ?_⟩
          · rw [String.toList_ofList]
            exact (all_isValueByte hlatin).1 hgrammar.2
          · rw [fieldOf, Bytes.ofText, Bytes.ofText, String.toList_ofList]
        · cases h
      | _ => cases h
    | _ => cases h
  · rintro ⟨n, v, ⟨rfl, ⟨t, rfl, rfl⟩, hnamed, hline⟩, rfl⟩
    rw [String.toList_ofList] at hline
    have hascii := hnamed.ascii
    have hlatin : ∀ c ∈ Text.strip t.toList, c.toNat < 256 := fun c hc => toNat_lt_of_isValueChar (hline c hc)
    have hname : Bytes.ascii? n.toList = some (Bytes.ofText n) := below?_eq_some.2 ⟨hascii, rfl⟩
    have hvalue : Bytes.latin1? (Text.strip t.toList) = some (Bytes.ofText (String.ofList (Text.strip t.toList))) :=
      below?_eq_some.2 ⟨hlatin, by rw [Bytes.ofText, String.toList_ofList]⟩
    have hvalid : (Bytes.ofText (String.ofList (Text.strip t.toList))).all isValueByte = true := by
      rw [Bytes.ofText, String.toList_ofList]
      exact (all_isValueByte hlatin).2 hline
    simp only [field?, hname, hvalue, Option.bind_eq_bind, Option.bind_some, (isName_ofText hascii).2 hnamed, hvalid,
      Bool.and_true, if_true]
    rfl

/-! ## One field -/

/-- What adding a field does to a list that has not been released. -/
structure Grown (l : HeaderList) (name value : Value) : Prop where
  taken : (l.add name value).1.isOk = true ↔ ∃ n v, Taken name value n v
  grows : ∀ n v, Taken name value n v → (l.add name value).2.entries = l.entries ++ [entryOf n v]
    ∧ (l.add name value).2.fields = l.fields ++ [fieldOf n v]
  stays : (∀ n v, ¬Taken name value n v) → (l.add name value).2 = l

theorem Taken.latin {name value : Value} {n v : String} (h : Taken name value n v) :
    (∀ c ∈ n.toList, c.toNat < 256) ∧ ∀ c ∈ v.toList, c.toNat < 256 :=
  ⟨fun c hc => Nat.lt_trans (h.named.ascii c hc) (by decide), fun c hc => toNat_lt_of_isValueChar (h.line c hc)⟩

theorem entry_fieldOf {name value : Value} {n v : String} (h : Taken name value n v) :
    Bytes.text (fieldOf n v).name ++ ": " ++ Bytes.text (fieldOf n v).value = entryOf n v := by
  rw [fieldOf, text_ofText h.latin.1, text_ofText h.latin.2, entryOf]

theorem add_of_taken {l : HeaderList} {name value : Value} {n v : String} (h : Taken name value n v)
    (unreleased : l.isReleased = false) :
    l.add name value = (.ok, { l with content := some (l.fields ++ [fieldOf n v]) }) := by
  have hfield := field?_eq_some.2 ⟨n, v, h, rfl⟩
  cases hc : l.content with
  | none => simp [isReleased, hc] at unreleased
  | some fields => simp [add, hc, hfield, HeaderList.fields]

theorem add_of_not_taken {l : HeaderList} {name value : Value} (h : ∀ n v, ¬Taken name value n v) :
    (l.add name value).1.isOk = false ∧ (l.add name value).2 = l := by
  have hfield : field? name value = none := by
    cases hf : field? name value with
    | none => rfl
    | some f =>
      obtain ⟨n, v, htaken, -⟩ := field?_eq_some.1 hf
      exact absurd htaken (h n v)
  cases hc : l.content with
  | none => simp [add, hc, Outcome.isOk]
  | some fields => simp [add, hc, hfield, refusal, Outcome.isOk]

/-- **A list takes the fields of the grammar, one at a time, and no others.** -/
theorem grown {l : HeaderList} (unreleased : l.isReleased = false) (name value : Value) : Grown l name value := by
  refine ⟨⟨fun hok => ?_, ?_⟩, fun n v htaken => ?_, fun hno => (add_of_not_taken hno).2⟩
  · by_cases htakes : ∃ n v, Taken name value n v
    · exact htakes
    · have hrefused := (add_of_not_taken (l := l) fun n v htaken => htakes ⟨n, v, htaken⟩).1
      exact nomatch hok.symm.trans hrefused
  · rintro ⟨n, v, htaken⟩
    rw [add_of_taken htaken unreleased]
    rfl
  · rw [add_of_taken htaken unreleased]
    refine ⟨?_, rfl⟩
    simp only [entries, fields, Option.getD_some, List.map_append, List.map_cons, List.map_nil, entry_fieldOf htaken]

/-! ## Fields one after another -/

/-- Adds fields in their order. -/
def adds (fields : List (Value × Value)) (l : HeaderList) : HeaderList :=
  fields.foldl (fun l f => (l.add f.1 f.2).2) l

/-- The fields of the grammar among some values, in order, as the texts of their names and values. -/
inductive Entered : List (Value × Value) → List (String × String) → Prop
  | nil : Entered [] []
  | taken {name value : Value} {n v : String} {fields : List (Value × Value)} {ps : List (String × String)}
    (h : Taken name value n v) (rest : Entered fields ps) : Entered ((name, value) :: fields) ((n, v) :: ps)
  | left {name value : Value} {fields : List (Value × Value)} {ps : List (String × String)}
    (h : ∀ n v, ¬Taken name value n v) (rest : Entered fields ps) : Entered ((name, value) :: fields) ps

/-- What a list holds after it has been given some fields. -/
structure Holds (l : HeaderList) (ps : List (String × String)) (l' : HeaderList) : Prop where
  unreleased : l'.isReleased = false
  entries : l'.entries = l.entries ++ ps.map fun p => entryOf p.1 p.2
  fields : l'.fields = l.fields ++ ps.map fun p => fieldOf p.1 p.2

theorem Holds.cons {l mid l' : HeaderList} {n v : String} {ps : List (String × String)} (h : Holds mid ps l')
    (entries : mid.entries = l.entries ++ [entryOf n v]) (fields : mid.fields = l.fields ++ [fieldOf n v]) :
    Holds l ((n, v) :: ps) l' where
  unreleased := h.unreleased
  entries := by rw [h.entries, entries, List.append_assoc]; rfl
  fields := by rw [h.fields, fields, List.append_assoc]; rfl

/-- **A list holds the fields of the grammar that it has been given, in order, and nothing else.** -/
theorem adds_holds (fields : List (Value × Value)) {l : HeaderList} (unreleased : l.isReleased = false) :
    ∃ ps, Entered fields ps ∧ Holds l ps (adds fields l) := by
  induction fields generalizing l with
  | nil => exact ⟨[], .nil, unreleased, (List.append_nil _).symm, (List.append_nil _).symm⟩
  | cons f fields ih =>
    obtain ⟨name, value⟩ := f
    have hgrown := grown unreleased name value
    by_cases htakes : ∃ n v, Taken name value n v
    · obtain ⟨n, v, htaken⟩ := htakes
      obtain ⟨hentries, hfields⟩ := hgrown.grows n v htaken
      have hnext : (l.add name value).2.isReleased = false := by
        rw [add_of_taken htaken unreleased]
        rfl
      obtain ⟨ps, hentered, hholds⟩ := ih hnext
      exact ⟨(n, v) :: ps, .taken htaken hentered, hholds.cons hentries hfields⟩
    · have hno : ∀ n v, ¬Taken name value n v := fun n v htaken => htakes ⟨n, v, htaken⟩
      have hstays := hgrown.stays hno
      obtain ⟨ps, hentered, hholds⟩ := ih unreleased
      refine ⟨ps, .left hno hentered, ?_⟩
      change Holds l ps (adds fields (l.add name value).2)
      rw [hstays]
      exact hholds

theorem Entered.taken_of_mem {fields : List (Value × Value)} {ps : List (String × String)} (h : Entered fields ps)
    {p : String × String} (hp : p ∈ ps) : ∃ name value, (name, value) ∈ fields ∧ Taken name value p.1 p.2 := by
  induction h with
  | nil => cases hp
  | taken h _ ih =>
    rcases List.mem_cons.1 hp with rfl | hp
    · exact ⟨_, _, List.mem_cons_self, h⟩
    · obtain ⟨name, value, hmem, htaken⟩ := ih hp
      exact ⟨name, value, List.mem_cons_of_mem _ hmem, htaken⟩
  | left _ _ ih =>
    obtain ⟨name, value, hmem, htaken⟩ := ih hp
    exact ⟨name, value, List.mem_cons_of_mem _ hmem, htaken⟩

/-! ## The ends of lines -/

/-- No line ends within a text. -/
def OneLine (s : String) : Prop := '\r' ∉ s.toList ∧ '\n' ∉ s.toList

theorem oneLine_of_all {s : String} {p : Char → Bool} (h : ∀ c ∈ s.toList, p c = true) (hcr : p '\r' = false)
    (hlf : p '\n' = false) : OneLine s :=
  ⟨fun hmem => (nomatch (h _ hmem).symm.trans hcr), fun hmem => (nomatch (h _ hmem).symm.trans hlf)⟩

theorem IsToken.oneLine {s : String} (h : IsToken s) : OneLine s := oneLine_of_all h.2 (by decide) (by decide)

theorem Taken.oneLine {name value : Value} {n v : String} (h : Taken name value n v) : OneLine v :=
  oneLine_of_all h.line (by decide) (by decide)

/-! ## The request -/

theorem head?_dropWhile (p : Char → Bool) (cs : List Char) : (cs.dropWhile p).head?.all (!p ·) = true := by
  have h := List.head?_dropWhile_not p cs
  cases hd : (cs.dropWhile p).head? with
  | none => rfl
  | some c =>
    rw [hd] at h
    simpa using h

/-- A text that has been trimmed begins and ends with characters of the other kind. -/
theorem ends_trim (p : Char → Bool) (cs : List Char) :
    (Text.trim p cs).head?.all (!p ·) = true ∧ (Text.trim p cs).getLast?.all (!p ·) = true := by
  unfold Text.trim
  rw [List.getLast?_reverse]
  refine ⟨?_, head?_dropWhile p _⟩
  have hprefix : ((cs.dropWhile p).reverse.dropWhile p).reverse <+: cs.dropWhile p := by
    rw [← List.reverse_suffix, List.reverse_reverse]
    exact List.dropWhile_suffix p
  obtain ⟨ds, hds⟩ := hprefix
  have hhead := head?_dropWhile p cs
  rw [← hds, List.head?_append] at hhead
  cases hh : ((cs.dropWhile p).reverse.dropWhile p).reverse.head? with
  | none => rfl
  | some c =>
    rw [hh] at hhead
    exact hhead

theorem isLineByte_of_isValueChar {c : Char} (h : isValueChar c = true) : Http.isLineByte c.toNat.toUInt8 = true := by
  have hall : ∀ n : Fin 256, isValueChar (Char.ofNat n) = true → Http.isLineByte n.val.toUInt8 = true := by
    decide +kernel
  have hc := hall ⟨c.toNat, toNat_lt_of_isValueChar h⟩
  rw [Char.ofNat_toNat] at hc
  exact hc h

theorem isVisible_of_isValueChar {c : Char} (h : isValueChar c = true) (hblank : Text.isBlank c = false) :
    Http.isVisible c.toNat.toUInt8 = true := by
  have hall : ∀ n : Fin 256, isValueChar (Char.ofNat n) = true → Text.isBlank (Char.ofNat n) = false →
      Http.isVisible n.val.toUInt8 = true := by decide +kernel
  have hc := hall ⟨c.toNat, toNat_lt_of_isValueChar h⟩
  rw [Char.ofNat_toNat] at hc
  exact hc h hblank

/-- The value of a field that a list takes can be sent. -/
theorem Taken.isFieldValue {name value : Value} {n v : String} (h : Taken name value n v) :
    Http.isFieldValue (Bytes.ofText v) = true := by
  obtain ⟨t, -, rfl⟩ := h.value
  have hline := h.line
  rw [String.toList_ofList] at hline
  obtain ⟨hhead, hlast⟩ := ends_trim Text.isBlank t.toList
  have hvisible {c? : Option Char} (hmem : ∀ c, c? = some c → c ∈ Text.strip t.toList)
      (hend : c?.all (!Text.isBlank ·) = true) : (c?.map fun c => c.toNat.toUInt8).all Http.isVisible = true := by
    cases c? with
    | none => rfl
    | some c => exact isVisible_of_isValueChar (hline c (hmem c rfl)) (by simpa using hend)
  unfold Http.isFieldValue Bytes.ofText
  rw [String.toList_ofList, List.head?_map, List.getLast?_map, Bool.and_eq_true, Bool.and_eq_true, List.all_map,
    List.all_eq_true]
  exact ⟨⟨fun c hc => isLineByte_of_isValueChar (hline c hc), hvisible (fun c => List.mem_of_head?) hhead⟩,
    hvisible (fun c => List.mem_of_getLast?) hlast⟩

/-- The name of a field that a list takes can be sent unless a line feed ends it. -/
theorem Taken.isToken {name value : Value} {n v : String} (h : Taken name value n v) :
    Http.isToken (Bytes.ofText n) = true ∨ ∃ t, IsToken t ∧ n = t ++ "\n" := by
  rcases h.named with htoken | hended
  · exact .inl ((isToken_ofText h.named.ascii).2 htoken)
  · exact .inr hended

open Http (FieldFault)
open Http.Request (hostLine lengthLine)

/-- What becomes of a request that brings the fields of a list along. -/
structure Sends (l : HeaderList) (r : Http.Request) : Prop where
  /-- A name that the request is refused for is one of the list, and ends in a line feed. -/
  name : ∀ x, r.write = .error (.field (.name x)) →
    ∃ t, IsToken t ∧ x = Bytes.ofText (t ++ "\n") ∧ ∃ f ∈ l.fields, f.name = x
  /-- A value that the request is refused for is none of the list. -/
  value : ∀ x, r.write = .error (.field (.value x)) → HostName.toAscii r.host.toList = .ok x
  /-- A line feed at the end of a name is never written. -/
  unwritten : (∃ f ∈ l.fields, f.name.getLast? = some Bytes.lf) → ∀ out, r.write ≠ .ok out

theorem isToken_lf {b : Bytes} (h : b.getLast? = some Bytes.lf) : Http.isToken b = false := by
  obtain ⟨cs, rfl⟩ := List.getLast?_eq_some_iff.1 h
  have hlf : Http.isTokenByte Bytes.lf = false := by decide
  simp [Http.isToken, hlf]

theorem mem_allFields {r : Http.Request} {host : Bytes} {f : Http.Field} (h : f ∈ r.allFields host) :
    f = hostLine host ∨ f ∈ r.fields ∨ f = lengthLine r.body := by
  unfold Http.Request.allFields at h
  rcases List.mem_append.1 h with h | h
  · rcases List.mem_cons.1 h with h | h
    · exact .inl h
    · exact .inr (.inl h)
  · split at h
    · cases h
    · exact .inr (.inr (List.mem_singleton.1 h))

theorem sends {l : HeaderList} {r : Http.Request} (hr : r.fields = l.fields)
    (taken : ∀ f ∈ l.fields, ∃ name value n v, Taken name value n v ∧ f = fieldOf n v) : Sends l r := by
  refine ⟨fun x hx => ?_, fun x hx => ?_, fun hlf out hout => ?_⟩
  · obtain ⟨host, -, hfault⟩ := Http.Request.fault_of_write hx
    obtain ⟨f, hf, a, ha⟩ := Http.Request.fault_of_checkFields hfault
    obtain ⟨rfl, hname⟩ := (Http.Request.fault_of_addChecked ha).1 x rfl
    rcases mem_allFields hf with rfl | hf | rfl
    · exact absurd hname (by simp [hostLine]; decide)
    · rw [hr] at hf
      obtain ⟨name, value, n, v, htaken, rfl⟩ := taken f hf
      rcases htaken.isToken with htoken | ⟨t, htoken, rfl⟩
      · exact absurd (hname.symm.trans htoken) Bool.false_ne_true
      · exact ⟨t, htoken, rfl, _, hf, rfl⟩
    · exact absurd hname (by simp [lengthLine]; decide)
  · obtain ⟨host, hhost, hfault⟩ := Http.Request.fault_of_write hx
    obtain ⟨f, hf, a, ha⟩ := Http.Request.fault_of_checkFields hfault
    obtain ⟨rfl, hvalue⟩ := (Http.Request.fault_of_addChecked ha).2 x rfl
    rcases mem_allFields hf with rfl | hf | rfl
    · exact hhost
    · rw [hr] at hf
      obtain ⟨name, value, n, v, htaken, rfl⟩ := taken f hf
      exact absurd (hvalue.symm.trans htaken.isFieldValue) Bool.false_ne_true
    · have hdigits := Http.Request.isFieldValue_digits (Bytes.all_isDigit_decimal r.body.length)
      exact absurd (hvalue.symm.trans hdigits) Bool.false_ne_true
  · obtain ⟨f, hf, hlf⟩ := hlf
    obtain ⟨host, target, fields, hpassed, -⟩ := Http.Request.passed_of_write hout
    have hmem : f ∈ r.allFields host := by
      unfold Http.Request.allFields
      rw [hr]
      exact List.mem_append_left _ (List.mem_cons_of_mem _ hf)
    have hcheck := Http.Request.checkField_of_checkFields hpassed.checked f hmem
    simp [Http.checkField, isToken_lf hlf] at hcheck

/-! ## Every list -/

/-- A line, which may be followed by its end if it is a name. -/
structure Lines (n v : String) : Prop where
  name : OneLine n ∨ ∃ t, OneLine t ∧ n = t ++ "\n"
  value : OneLine v

theorem Taken.lines {name value : Value} {n v : String} (h : Taken name value n v) : Lines n v := by
  refine ⟨?_, h.oneLine⟩
  rcases h.named with htoken | ⟨t, htoken, rfl⟩
  · exact .inl htoken.oneLine
  · exact .inr ⟨t, htoken.oneLine, rfl⟩

/-- **A list takes the fields of the grammar, and no others.**  Until it is released, it takes a field exactly if the
grammar has it, at its end, and is left as it is otherwise.  Whatever it has been given, its entries and its fields are
those of the grammar among it, one for one and in order.  Each value is one line, and each name is, but for a line feed
that may end it; and no request with the list is refused for the grammar of a field of the list, but for such a name,
with which it is never written. -/
theorem header_grammar {l : HeaderList} (unreleased : l.isReleased = false) (fields : List (Value × Value)) :
    (∀ name value, Grown l name value)
      ∧ ∃ ps, Entered fields ps ∧ Holds {} ps (adds fields {}) ∧ (∀ p ∈ ps, Lines p.1 p.2)
        ∧ ∀ r : Http.Request, r.fields = (adds fields {}).fields → Sends (adds fields {}) r := by
  refine ⟨grown unreleased, ?_⟩
  obtain ⟨ps, hentered, hholds⟩ := adds_holds fields (l := {}) rfl
  refine ⟨ps, hentered, hholds, fun p hp => ?_, fun r hr => sends hr fun f hf => ?_⟩
  · obtain ⟨name, value, -, htaken⟩ := hentered.taken_of_mem hp
    exact htaken.lines
  · rw [hholds.fields] at hf
    obtain ⟨p, hp, rfl⟩ := List.mem_map.1 hf
    obtain ⟨name, value, -, htaken⟩ := hentered.taken_of_mem hp
    exact ⟨name, value, p.1, p.2, htaken, rfl⟩

/-- A get that brings fields along. -/
def getWith (fields : List Http.Field) : Http.Request :=
  { method := .get, host := "h", target := "/", fields := fields, body := [] }

theorem header_grammar_padded :
    let l := adds [(.text "X-Id", .text " 7 "), (.text "X Id", .text "8")] {}
    Taken (.text "X-Id") (.text " 7 ") "X-Id" "7"
      ∧ (({} : HeaderList).add (.text "X-Id") (.text " 7 ")).2.entries = ["X-Id: 7"] ∧ Sends l (getWith l.fields) := by
  intro l
  have htaken : Taken (.text "X-Id") (.text " 7 ") "X-Id" "7" :=
    ⟨rfl, ⟨" 7 ", rfl, by decide⟩, .inl ⟨by decide, List.all_eq_true.1 (by decide)⟩, List.all_eq_true.1 (by decide)⟩
  obtain ⟨hone, ps, -, -, -, hsends⟩ :=
    header_grammar (l := {}) rfl [(.text "X-Id", .text " 7 "), (.text "X Id", .text "8")]
  exact ⟨htaken, ((hone _ _).grows _ _ htaken).1, hsends _ rfl⟩

/-- The name that a request is refused for, if it is. -/
def refusedName? : Except Http.RequestFault Http.Written → Option Bytes
  | .error (.field (.name x)) => some x
  | _ => none

theorem eq_of_refusedName? {a : Except Http.RequestFault Http.Written} {x : Bytes} (h : refusedName? a = some x) :
    a = .error (.field (.name x)) := by
  unfold refusedName? at h
  split at h
  · cases h
    rfl
  · cases h

/-- A name that ends in a line feed is no token, but a list takes it; the request with it is then refused. -/
theorem line_feed_ends_a_name :
    let a := ({} : HeaderList).add (.text "X\n") (.text "v")
    ¬IsToken "X\n" ∧ a.1 = .ok ∧ a.2.entries = ["X\n: v"]
      ∧ (getWith a.2.fields).write = .error (.field (.name (Bytes.ofText "X\n"))) := by
  intro a
  exact ⟨not_isToken_lf "X", by decide, by decide, eq_of_refusedName? (by decide +kernel)⟩

end HeaderList
end Transport
