import ContentTransport.Bytes
/-!
# Tape — bytes, and a place that reads move

A read of `n` bytes moves the place by `n`, at most to the end, and gives what lies between the old place and the new
one.  A read of less than no bytes moves the place back, even in front of the beginning; there it counts from the end,
as a place between bytes does, so that such a read may give bytes as well.  Reading on within the tape costs no more
than what is read, and says the same (`read_eq`).
-/
namespace Transport

structure Tape where
  data : Bytes := []
  place : Int := 0
  /-- What lies ahead of the place. -/
  ahead : Bytes := data.drop place.toNat
  place_le : place ≤ data.length := by omega
  ahead_eq : ahead = data.drop place.toNat := by rfl

namespace Tape

/-- A tape at its beginning. -/
def ofBytes (data : Bytes) : Tape := { data := data }

/-- Whether the place has come to the end. -/
def isSpent (t : Tape) : Bool := decide (0 ≤ t.place) && t.ahead.isEmpty

/-- How far it is to the end. -/
def left (t : Tape) : Nat := (t.data.length - t.place).toNat

theorem length_ahead (t : Tape) : t.ahead.length = t.data.length - t.place.toNat := by
  rw [t.ahead_eq, List.length_drop]

theorem isSpent_iff (t : Tape) : t.isSpent = true ↔ t.place = t.data.length := by
  have := t.place_le
  have := t.length_ahead
  simp only [isSpent, Bool.and_eq_true, decide_eq_true_eq, List.isEmpty_iff_length_eq_zero]
  omega

theorem left_of_isSpent {t : Tape} (h : t.isSpent = true) : t.left = 0 := by
  have := (isSpent_iff t).1 h
  simp only [left]
  omega

/-- A tape with more bytes at its end. -/
def add (more : Bytes) (t : Tape) : Tape where
  data := t.data ++ more
  place := t.place
  ahead := t.ahead ++ more
  place_le := by have := t.place_le; simp only [List.length_append]; omega
  ahead_eq := by
    have := t.place_le
    rw [List.drop_append_of_le_length (by omega), t.ahead_eq]

/-! ## Reading -/

/-- Where a read of `n` bytes comes to. -/
def after (n : Int) (t : Tape) : Int := min (t.place + n) t.data.length

/-- A read of bytes that lie ahead, and the tape after it. -/
def readOn (n : Nat) (t : Tape) (h : 0 ≤ t.place) : Bytes × Tape :=
  (t.ahead.take n,
    { data := t.data, place := t.place + (t.ahead.take n).length, ahead := t.ahead.drop n,
      place_le := by
        have := t.place_le
        have := t.length_ahead
        rw [List.length_take]
        omega
      ahead_eq := by
        have := t.length_ahead
        rw [t.ahead_eq, List.drop_drop, List.length_take, ← t.ahead_eq]
        by_cases hn : n ≤ t.ahead.length
        · congr 1; omega
        · rw [List.drop_eq_nil_of_le (by omega), List.drop_eq_nil_of_le (by omega)] })

def read (n : Int) (t : Tape) : Bytes × Tape :=
  if h : 0 ≤ t.place ∧ 0 ≤ n then t.readOn n.toNat h.1
  else (t.data.slice t.place (t.after n), { data := t.data, place := t.after n, place_le := Int.min_le_right _ _ })

theorem read_eq (n : Int) (t : Tape) :
    (t.read n).1 = t.data.slice t.place (t.after n) ∧ (t.read n).2.data = t.data
      ∧ (t.read n).2.place = t.after n := by
  have hle := t.place_le
  have hlen := t.length_ahead
  unfold read
  split
  · rename_i h
    simp only [readOn, List.length_take]
    refine ⟨?_, trivial, by simp only [after]; omega⟩
    rw [Bytes.slice, Bytes.place_of_nonneg h.1, Bytes.place_of_nonneg (by simp only [after]; omega), t.ahead_eq,
      List.drop_take]
    simp only [after]
    by_cases hn : t.place + n ≤ t.data.length
    · congr 1; omega
    · rw [List.take_of_length_le (by rw [List.length_drop]; omega),
        List.take_of_length_le (by rw [List.length_drop]; omega)]
  · exact ⟨rfl, rfl, rfl⟩

/-- A read that goes on and gives something comes closer to the end. -/
theorem left_read_lt {n : Int} {t : Tape} (hn : 0 ≤ n) (h : (t.read n).1 ≠ []) : (t.read n).2.left < t.left := by
  obtain ⟨hpiece, hdata, hplace⟩ := read_eq n t
  have hle := t.place_le
  simp only [left, hdata, hplace]
  by_cases hlt : t.place < t.after n
  · simp only [after] at hlt ⊢
    omega
  · have heq : t.after n = t.place := by simp only [after] at hlt ⊢; omega
    exact absurd (hpiece.trans (heq ▸ Bytes.slice_eq_nil (Nat.le_refl _))) h

/-- A read that goes back and gives something goes from within the tape to before its beginning. -/
theorem place_of_read_back {n : Int} {t : Tape} (hn : n < 0) (h : (t.read n).1 ≠ []) :
    0 ≤ t.place ∧ (t.read n).2.place < 0 := by
  obtain ⟨hpiece, _, hplace⟩ := read_eq n t
  rw [hplace]
  have hle : t.after n ≤ t.place := by simp only [after]; omega
  exact Decidable.byContradiction fun hc =>
    h (hpiece.trans (Bytes.slice_eq_nil (Bytes.place_le_place hle (by omega))))

end Tape
end Transport
