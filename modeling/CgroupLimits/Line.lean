import CgroupLimits.Files
import CgroupLimits.Numeral
import CgroupLimits.Text.Utf8

/-! Lines of a stream of bytes, and reading them under a bound on their length.

    A stream is the list of its unread bytes, so a read is a function from the bytes before it to
    an outcome and the bytes after it. A bounded read takes the bytes up to and with the next
    newline, but no more than one byte past the bound, and it has taken them whatever they turn
    out to be. `taken_append_rest` says that no byte is lost or read twice, and `rest_lt` that a
    read moves on unless the stream is at its end. -/

namespace CgroupLimits.Line

/-- The byte that ends a line. -/
def newline : UInt8 := 10

/-- The bytes up to and with the first newline, and the bytes after it. -/
def cut : List UInt8 → List UInt8 × List UInt8
  | [] => ([], [])
  | b :: bs =>
    if b = newline then ([b], bs)
    else
      let tail := cut bs
      (b :: tail.1, tail.2)

/-- The first `most` bytes up to and with the first newline among them. -/
def cutWithin : Nat → List UInt8 → List UInt8
  | 0, _ => []
  | _ + 1, [] => []
  | most + 1, b :: bs => if b = newline then [b] else b :: cutWithin most bs

/-- The lines of a stream, each with the newline that ends it; only the last can lack one. -/
def all : List UInt8 → List (List UInt8)
  | [] => []
  | b :: bs =>
    if b = newline then [b] :: all bs
    else
      match all bs with
      | [] => [[b]]
      | line :: lines => (b :: line) :: lines

/-- A line without the newline that ends it. -/
def body (line : List UInt8) : List UInt8 :=
  if line.getLast? = some newline then line.dropLast else line

/-- What a bounded read finds. -/
inductive Bounded
  | line (text : String)
  | tooLong
  | ended
  | notText
  deriving DecidableEq, Repr

/-- The most bytes that a read with the bound `most` takes: one more than fit in the line. -/
def reach (most : Nat) : Nat := min (most + 1) Numeral.max64

/-- The bytes that a bounded read takes. -/
def taken (most : Nat) (bytes : List UInt8) : List UInt8 := cutWithin (reach most) bytes

/-- The bytes that a bounded read leaves. -/
def rest (most : Nat) (bytes : List UInt8) : List UInt8 := bytes.drop (taken most bytes).length

/-- What the bytes of one bounded read say. -/
def outcome (most : Nat) (bytes : List UInt8) : Bounded :=
  match Text.ofBytes? (body bytes) with
  | none => .notText
  | some text =>
    if bytes = [] then .ended
    else if bytes.getLast? = some newline then .line text
    else if bytes.length > most then .tooLong
    else .line text

/-- Reads a line of at most `most` bytes, its newline not counted. -/
def read (most : Nat) (bytes : List UInt8) : Bounded × List UInt8 :=
  (outcome most (taken most bytes), rest most bytes)

/-- Passes over the rest of the line. -/
def skip (bytes : List UInt8) : List UInt8 := (cut bytes).2

/-! ### Reads are consecutive and move on -/

theorem cut_append (bytes : List UInt8) : (cut bytes).1 ++ (cut bytes).2 = bytes := by
  induction bytes with
  | nil => rfl
  | cons b bs ih => by_cases hb : b = newline <;> simp [cut, hb, ih]

theorem cutWithin_leads (most : Nat) (bytes : List UInt8) : cutWithin most bytes <+: bytes := by
  induction bytes generalizing most with
  | nil => cases most <;> simp [cutWithin]
  | cons b bs ih =>
    cases most with
    | zero => simp [cutWithin]
    | succ most =>
      rw [cutWithin]
      split
      · exact ⟨bs, rfl⟩
      · exact (List.cons_prefix_cons).2 ⟨rfl, ih most⟩

theorem taken_leads (most : Nat) (bytes : List UInt8) : taken most bytes <+: bytes :=
  cutWithin_leads _ _

theorem taken_append_rest (most : Nat) (bytes : List UInt8) :
    taken most bytes ++ rest most bytes = bytes :=
  List.prefix_iff_eq_append.1 (taken_leads most bytes)

theorem reach_pos (most : Nat) : 0 < reach most := by
  simp only [reach, Numeral.max64]
  omega

theorem taken_ne_nil (most : Nat) {bytes : List UInt8} (h : bytes ≠ []) :
    taken most bytes ≠ [] := by
  obtain ⟨b, bs, rfl⟩ := List.exists_cons_of_ne_nil h
  obtain ⟨n, hn⟩ := Nat.exists_eq_succ_of_ne_zero (Nat.ne_of_gt (reach_pos most))
  rw [taken, hn, cutWithin]
  split <;> simp

theorem rest_lt (most : Nat) {bytes : List UInt8} (h : bytes ≠ []) :
    (rest most bytes).length < bytes.length := by
  have hsplit := congrArg List.length (taken_append_rest most bytes)
  have hpos := List.length_pos_iff.2 (taken_ne_nil most h)
  simp only [List.length_append] at hsplit
  omega

theorem skip_le (bytes : List UInt8) : (skip bytes).length ≤ bytes.length := by
  have hsplit := congrArg List.length (cut_append bytes)
  simp only [List.length_append] at hsplit
  simp only [skip]
  omega

/-- The lines put together again are the stream. -/
theorem flatten_all (bytes : List UInt8) : (all bytes).flatten = bytes := by
  induction bytes with
  | nil => rfl
  | cons b bs ih =>
    by_cases hb : b = newline
    · simp [all, hb, ih]
    · simp only [all, if_neg hb]
      cases hall : all bs with
      | nil =>
        rw [hall] at ih
        rw [← ih]
        rfl
      | cons line lines =>
        rw [hall] at ih
        rw [← ih]
        rfl

end CgroupLimits.Line
