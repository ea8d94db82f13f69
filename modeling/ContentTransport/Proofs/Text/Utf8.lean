import Mathlib.Tactic.IntervalCases
import ContentTransport.Text.Utf8
/-!
# Utf8 — what is read of a text that is cut

A text is read back as it was written if all its bytes are read.  If only the first ones are, then the characters that are
whole come back, and a character that is cut comes back as one replacement (`readCut_utf8`).
-/
namespace Transport
namespace Text

/-! ## Reading, byte by byte -/

/-- The characters that some bytes complete, and what is under way after them. -/
def readBytes (s : Option Begun) : Bytes → List Char × Option Begun
  | [] => ([], s)
  | b :: r => ((readByte s b).1 ++ (readBytes (readByte s b).2 r).1, (readBytes (readByte s b).2 r).2)

theorem readFrom_append (s : Option Begun) (b r : Bytes) :
    readFrom s (b ++ r) = (readBytes s b).1 ++ readFrom (readBytes s b).2 r := by
  induction b generalizing s with
  | nil => rfl
  | cons x b ih => rw [List.cons_append, readFrom, ih, readBytes, List.append_assoc]

/-- A byte that continues a character with six bits. -/
def tailByte (m : Nat) : UInt8 := (0x80 + m).toUInt8

theorem toNat_tailByte {m : Nat} (h : m < 64) : (tailByte m).toNat = 0x80 + m := by
  rw [tailByte, Nat.toUInt8_eq, UInt8.toNat_ofNat']
  omega

theorem beginChar_two {m : Nat} (low : 2 ≤ m) (high : m < 32) :
    beginChar (0xc0 + m).toUInt8 = ([], some ⟨m, 1, 0x80, 0xbf⟩) := by
  interval_cases m <;> rfl

theorem beginChar_three {m : Nat} (high : m < 16) : beginChar (0xe0 + m).toUInt8
    = ([], some ⟨m, 2, if m = 0 then 0xa0 else 0x80, if m = 13 then 0x9f else 0xbf⟩) := by
  interval_cases m <;> rfl

theorem beginChar_four {m : Nat} (high : m < 5) : beginChar (0xf0 + m).toUInt8
    = ([], some ⟨m, 3, if m = 0 then 0x90 else 0x80, if m = 4 then 0x8f else 0xbf⟩) := by
  interval_cases m <;> rfl

/-- A byte that may come next may be the one that continues a character with these bits. -/
def Begun.Admits (p : Begun) (m : Nat) : Prop := m < 64 ∧ p.low.toNat ≤ 0x80 + m ∧ 0x80 + m ≤ p.high.toNat

/-- A byte that continues the character under way completes it, or leaves fewer to come. -/
theorem readByte_tail {p : Begun} {m : Nat} (h : p.Admits m) : readByte (some p) (tailByte m)
      = if p.left = 1 then ([Char.ofNat (p.bits * 64 + m)], none)
        else ([], some ⟨p.bits * 64 + m, p.left - 1, 0x80, 0xbf⟩) := by
  obtain ⟨hfits, hlow, hhigh⟩ := h
  have hbyte := toNat_tailByte hfits
  have hlow : p.low ≤ tailByte m := by rw [UInt8.le_iff_toNat_le, hbyte]; exact hlow
  have hhigh : tailByte m ≤ p.high := by rw [UInt8.le_iff_toNat_le, hbyte]; exact hhigh
  have hbits : p.bits * 64 + (0x80 + m - 0x80) = p.bits * 64 + m := by omega
  simp only [readByte, hlow, hhigh, hbyte, hbits, decide_true, Bool.and_self, if_true, beq_iff_eq]

/-! ## One character -/

/-- The bits of a character, the higher ones first. -/
def joined (bits : Nat) (ms : List Nat) : Nat := ms.foldl (fun n m => n * 64 + m) bits

/-- The bytes that are still to come complete a character, and no fewer do. -/
theorem readBytes_tails {ms : List Nat} : ∀ {p : Begun}, p.left = ms.length → ms ≠ [] → (∀ m ∈ ms, m < 64) →
    (∀ m ∈ ms.head?, p.Admits m) →
      readBytes (some p) (ms.map tailByte) = ([Char.ofNat (joined p.bits ms)], none)
        ∧ ∀ k, k < ms.length → ∃ q, readBytes (some p) ((ms.map tailByte).take k) = ([], some q) := by
  induction ms with
  | nil => exact fun _ h => absurd rfl h
  | cons m ms ih =>
    intro p left _ fits admits
    have hstep := readByte_tail (admits m rfl)
    cases ms with
    | nil =>
      have hlast : p.left = 1 := left
      rw [if_pos hlast] at hstep
      refine ⟨by simp [readBytes, hstep, joined], fun k hk => ⟨p, ?_⟩⟩
      obtain rfl : k = 0 := Nat.lt_one_iff.1 hk
      rfl
    | cons m' ms =>
      have hmore : p.left ≠ 1 := by rw [left]; simp
      rw [if_neg hmore] at hstep
      have hleft : p.left - 1 = (m' :: ms).length := by rw [left]; rfl
      have hfits : ∀ x ∈ m' :: ms, x < 64 := fun x hx => fits x (List.mem_cons_of_mem m hx)
      have hadmits : ∀ x ∈ (m' :: ms).head?, Begun.Admits ⟨p.bits * 64 + m, p.left - 1, 0x80, 0xbf⟩ x := by
        rintro x ⟨⟩
        have hx := hfits m' List.mem_cons_self
        exact ⟨hx, Nat.le_add_right _ _, show 0x80 + m' ≤ 0xbf by omega⟩
      obtain ⟨hwhole, hcut⟩ := ih hleft nofun hfits hadmits
      rw [List.map_cons, readBytes, hstep, hwhole]
      refine ⟨rfl, fun k hk => ?_⟩
      cases k with
      | zero => exact ⟨p, rfl⟩
      | succ k =>
        obtain ⟨q, hq⟩ := hcut k (Nat.lt_of_succ_lt_succ hk)
        exact ⟨q, by rw [List.take_succ_cons, readBytes, hstep, hq]; rfl⟩

/-- How a character is read: all its bytes complete it, and a beginning of them completes nothing. -/
structure Spells (b : Bytes) (c : Char) : Prop where
  whole : readBytes none b = ([c], none)
  cut : ∀ k, 0 < k → k < b.length → ∃ p, readBytes none (b.take k) = ([], some p)

theorem spells_plain {c : Char} (h : c.toNat < 0x80) : Spells [c.toNat.toUInt8] c := by
  have hbyte : c.toNat.toUInt8.toNat = c.toNat := by
    rw [Nat.toUInt8_eq, UInt8.toNat_ofNat']
    omega
  have hlow : c.toNat.toUInt8 < 0x80 := by
    rw [UInt8.lt_iff_toNat_lt, hbyte]
    exact h
  refine ⟨by simp [readBytes, readByte, beginChar, hlow, hbyte], fun k hk hlt => ?_⟩
  rw [List.length_singleton] at hlt
  omega

theorem spells_tails {b : UInt8} {p : Begun} {l : List Nat} {c : Char} (begins : beginChar b = ([], some p))
    (left : p.left = l.length) (some : l ≠ []) (fits : ∀ m ∈ l, m < 64) (admits : ∀ m ∈ l.head?, p.Admits m)
    (bits : joined p.bits l = c.toNat) : Spells (b :: l.map tailByte) c := by
  obtain ⟨hwhole, hcut⟩ := readBytes_tails left some fits admits
  have hbegins : readByte none b = ([], Option.some p) := begins
  rw [bits, Char.ofNat_toNat] at hwhole
  refine ⟨by rw [readBytes, hbegins, hwhole]; rfl, fun k hk hlt => ?_⟩
  obtain ⟨k, rfl⟩ := Nat.exists_eq_succ_of_ne_zero (Nat.ne_of_gt hk)
  rw [List.length_cons, List.length_map] at hlt
  obtain ⟨q, hq⟩ := hcut k (Nat.lt_of_succ_lt_succ hlt)
  exact ⟨q, by rw [List.take_succ_cons, readBytes, hbegins, hq]; rfl⟩

theorem spells_utf8Char (c : Char) : Spells (utf8Char c) c := by
  have hvalid : c.toNat < 0xd800 ∨ 0xdfff < c.toNat ∧ c.toNat < 0x110000 := c.valid
  unfold utf8Char
  dsimp only
  split
  · next h => exact spells_plain h
  split
  · next h1 h2 =>
    have hbits : joined (c.toNat / 64) [c.toNat % 64] = c.toNat := by
      simp only [joined, List.foldl_cons, List.foldl_nil]
      omega
    refine spells_tails (l := [c.toNat % 64]) (beginChar_two (by omega) (by omega)) rfl nofun ?_ ?_ hbits
    · simp [Nat.mod_lt]
    · rintro m ⟨⟩
      exact ⟨Nat.mod_lt _ (by decide), Nat.le_add_right _ _, show _ ≤ 0xbf by omega⟩
  split
  · next h1 h2 h3 =>
    have hbits : joined (c.toNat / 4096) [c.toNat / 64 % 64, c.toNat % 64] = c.toNat := by
      simp only [joined, List.foldl_cons, List.foldl_nil]
      omega
    refine spells_tails (l := [c.toNat / 64 % 64, c.toNat % 64]) (beginChar_three (by omega)) rfl nofun ?_ ?_ hbits
    · simp [Nat.mod_lt]
    · -- no overlong form, and no surrogate
      rintro m ⟨⟩
      refine ⟨Nat.mod_lt _ (by decide), ?_, ?_⟩
      · dsimp only
        split
        · exact show 0xa0 ≤ _ by omega
        · exact Nat.le_add_right _ _
      · dsimp only
        split
        · exact show _ ≤ 0x9f by omega
        · exact show _ ≤ 0xbf by omega
  · next h1 h2 h3 =>
    have hbits : joined (c.toNat / 262144) [c.toNat / 4096 % 64, c.toNat / 64 % 64, c.toNat % 64] = c.toNat := by
      simp only [joined, List.foldl_cons, List.foldl_nil]
      omega
    refine spells_tails (l := [c.toNat / 4096 % 64, c.toNat / 64 % 64, c.toNat % 64]) (beginChar_four (by omega)) rfl
      nofun ?_ ?_ hbits
    · simp [Nat.mod_lt]
    · -- no overlong form, and nothing beyond the last character
      rintro m ⟨⟩
      refine ⟨Nat.mod_lt _ (by decide), ?_, ?_⟩
      · dsimp only
        split
        · exact show 0x90 ≤ _ by omega
        · exact Nat.le_add_right _ _
      · dsimp only
        split
        · exact show _ ≤ 0x8f by omega
        · exact show _ ≤ 0xbf by omega

theorem utf8_cons (c : Char) (cs : List Char) : utf8 (c :: cs) = utf8Char c ++ utf8 cs := List.flatMap_cons

theorem readFrom_utf8Char (c : Char) (r : Bytes) : readFrom none (utf8Char c ++ r) = c :: readFrom none r := by
  rw [readFrom_append, (spells_utf8Char c).whole]
  rfl

/-- A character that is cut is read as one replacement. -/
theorem readFrom_cut {c : Char} {k : Nat} (some : 0 < k) (cut : k < (utf8Char c).length) :
    readFrom none ((utf8Char c).take k) = [replacement] := by
  obtain ⟨p, hp⟩ := (spells_utf8Char c).cut k some cut
  rw [← List.append_nil ((utf8Char c).take k), readFrom_append, hp]
  rfl

/-! ## A text that is cut -/

/-- The longest beginning of a text, in whole characters, that has at most so many bytes. -/
structure Longest (n : Nat) (cs kept : List Char) : Prop where
  isPrefix : kept <+: cs
  fits : (utf8 kept).length ≤ n
  longest : ∀ p, p <+: cs → (utf8 p).length ≤ n → p <+: kept

/-- What is read of the first bytes of a text, so many of them. -/
inductive ReadCut (n : Nat) (cs : List Char) : List Char → Prop
  | whole (fits : (utf8 cs).length ≤ n) : ReadCut n cs cs
  /-- The cut lies between two characters. -/
  | between {kept : List Char} (beyond : n < (utf8 cs).length) (longest : Longest n cs kept)
    (full : (utf8 kept).length = n) : ReadCut n cs kept
  /-- The cut lies within a character. -/
  | within {kept : List Char} (beyond : n < (utf8 cs).length) (longest : Longest n cs kept)
    (short : (utf8 kept).length < n) : ReadCut n cs (kept ++ [replacement])

theorem longest_nil {n : Nat} {c : Char} {cs : List Char} (beyond : n < (utf8Char c).length) : Longest n (c :: cs) [] := by
  refine ⟨List.nil_prefix, Nat.zero_le _, fun p hp hfits => ?_⟩
  cases p with
  | nil => exact List.prefix_refl _
  | cons d p =>
    obtain rfl : d = c := (List.cons_prefix_cons.1 hp).1
    rw [utf8_cons, List.length_append] at hfits
    omega

theorem Longest.cons {n : Nat} {cs kept : List Char} (h : Longest n cs kept) (c : Char) :
    Longest ((utf8Char c).length + n) (c :: cs) (c :: kept) := by
  refine ⟨List.cons_prefix_cons.2 ⟨rfl, h.isPrefix⟩, ?_, fun p hp hfits => ?_⟩
  · rw [utf8_cons, List.length_append]
    exact Nat.add_le_add_left h.fits _
  · cases p with
    | nil => exact List.nil_prefix
    | cons d p =>
      obtain ⟨rfl, hrest⟩ := List.cons_prefix_cons.1 hp
      rw [utf8_cons, List.length_append] at hfits
      exact List.cons_prefix_cons.2 ⟨rfl, h.longest p hrest (Nat.le_of_add_le_add_left hfits)⟩

theorem ReadCut.cons {n : Nat} {cs r : List Char} (h : ReadCut n cs r) (c : Char) :
    ReadCut ((utf8Char c).length + n) (c :: cs) (c :: r) := by
  have hlength (ds : List Char) : (utf8 (c :: ds)).length = (utf8Char c).length + (utf8 ds).length := by
    rw [utf8_cons, List.length_append]
  cases h with
  | whole fits => exact .whole (by rw [hlength]; omega)
  | between beyond longest full => exact .between (by rw [hlength]; omega) (longest.cons c) (by rw [hlength]; omega)
  | within beyond longest short => exact .within (by rw [hlength]; omega) (longest.cons c) (by rw [hlength]; omega)

/-- **Of the first bytes of a text its whole characters are read**, and a replacement for the one that is cut. -/
theorem readCut_utf8 (n : Nat) (cs : List Char) : ReadCut n cs (ofUtf8 ((utf8 cs).take n)) := by
  induction cs generalizing n with
  | nil =>
    rw [show (utf8 []).take n = [] from List.take_nil]
    exact .whole (Nat.zero_le n)
  | cons c cs ih =>
    rw [utf8_cons]
    by_cases hfits : (utf8Char c).length ≤ n
    · obtain ⟨k, rfl⟩ := Nat.exists_eq_add_of_le hfits
      rw [List.take_length_add_append, ofUtf8, readFrom_utf8Char]
      exact (ih k).cons c
    · have hcut : n < (utf8Char c).length := Nat.lt_of_not_le hfits
      have hbeyond : n < (utf8 (c :: cs)).length := by
        rw [utf8_cons, List.length_append]
        exact Nat.lt_add_right _ hcut
      rw [List.take_append_of_le_length (Nat.le_of_lt hcut)]
      cases n with
      | zero => exact .between hbeyond (longest_nil hcut) rfl
      | succ n =>
        rw [ofUtf8, readFrom_cut (Nat.succ_pos n) hcut]
        exact .within hbeyond (longest_nil hcut) (Nat.succ_pos n)

theorem length_utf8Char_le (c : Char) : (utf8Char c).length ≤ 4 := by
  unfold utf8Char
  dsimp only
  split_ifs <;> simp

theorem Longest.ne_nil {n : Nat} {cs kept : List Char} (h : Longest n cs kept) (some : cs ≠ []) (size : 4 ≤ n) :
    kept ≠ [] := by
  rintro rfl
  obtain ⟨c, cs, rfl⟩ := List.exists_cons_of_ne_nil some
  have hfits : (utf8 [c]).length ≤ n := by
    rw [utf8_cons, List.length_append]
    exact (length_utf8Char_le c).trans size
  exact absurd (List.prefix_nil.1 (h.longest [c] (List.cons_prefix_cons.2 ⟨rfl, List.nil_prefix⟩) hfits)) nofun

/-- What is read of a cut text begins like the text; there may be one replacement after that. -/
theorem ReadCut.told {n : Nat} {cs r : List Char} (h : ReadCut n cs r) (some : cs ≠ []) (size : 4 ≤ n) :
    ∃ told, told ≠ [] ∧ told <+: cs ∧ (r = told ∨ r = told ++ [replacement]) := by
  cases h with
  | whole => exact ⟨cs, some, List.prefix_refl cs, .inl rfl⟩
  | between _ longest => exact ⟨r, longest.ne_nil some size, longest.isPrefix, .inl rfl⟩
  | within _ longest => exact ⟨_, longest.ne_nil some size, longest.isPrefix, .inr rfl⟩

/-! ## Texts up to a NUL -/

theorem zero_mem_utf8Char {c : Char} (h : 0 ∈ utf8Char c) : c.toNat = 0 := by
  have hvalid : c.toNat < 0xd800 ∨ 0xdfff < c.toNat ∧ c.toNat < 0x110000 := c.valid
  have hzero {n : Nat} (hn : 0 = n.toUInt8) : n % 256 = 0 := by
    have hbyte := congrArg UInt8.toNat hn
    rw [Nat.toUInt8_eq, UInt8.toNat_ofNat'] at hbyte
    exact hbyte.symm
  unfold utf8Char at h
  dsimp only at h
  split at h
  · have hc := hzero (List.mem_singleton.1 h)
    omega
  split at h
  · simp only [List.mem_cons, List.not_mem_nil, or_false] at h
    rcases h with h | h <;> have hc := hzero h <;> omega
  split at h
  · simp only [List.mem_cons, List.not_mem_nil, or_false] at h
    rcases h with h | h | h <;> have hc := hzero h <;> omega
  · simp only [List.mem_cons, List.not_mem_nil, or_false] at h
    rcases h with h | h | h | h <;> have hc := hzero h <;> omega

/-- The bytes of a text up to the first NUL byte are those of the text up to the first NUL character. -/
theorem takeWhile_utf8 (cs : List Char) :
    (utf8 cs).takeWhile (· != 0) = utf8 (cs.takeWhile (· != Char.ofNat 0)) := by
  induction cs with
  | nil => rfl
  | cons c cs ih =>
    rw [utf8_cons]
    by_cases hc : c = Char.ofNat 0
    · subst hc
      rfl
    · have hall : ∀ b ∈ utf8Char c, (b != 0) = true := by
        rintro b hb
        rw [bne_iff_ne]
        rintro rfl
        exact hc ((Char.ofNat_toNat c).symm.trans (congrArg Char.ofNat (zero_mem_utf8Char hb)))
      have hkept : (c :: cs).takeWhile (· != Char.ofNat 0) = c :: cs.takeWhile (· != Char.ofNat 0) :=
        List.takeWhile_cons_of_pos (bne_iff_ne.2 hc)
      rw [List.takeWhile_append_of_pos hall, ih, hkept, utf8_cons]

end Text
end Transport
