/-!
# Texts as bytes

UTF-8, read strictly or with a replacement character for each longest part that begins like
a character but is none.
-/

namespace JobMatrix.Utf8

/-- The bytes of a text. -/
def encode (s : String) : List UInt8 :=
  s.toUTF8.toList

/-- For the first byte of a character of several: its own bits, the number of bytes that follow, and
the least and greatest byte that may come next. -/
def lead? (b : UInt8) : Option (Nat × Nat × UInt8 × UInt8) :=
  if 0xC2 ≤ b && b ≤ 0xDF then some (b.toNat % 32, 1, 0x80, 0xBF)
  else if b == 0xE0 then some (0, 2, 0xA0, 0xBF)
  else if b == 0xED then some (13, 2, 0x80, 0x9F)
  else if 0xE1 ≤ b && b ≤ 0xEF then some (b.toNat % 16, 2, 0x80, 0xBF)
  else if b == 0xF0 then some (0, 3, 0x90, 0xBF)
  else if 0xF1 ≤ b && b ≤ 0xF3 then some (b.toNat % 8, 3, 0x80, 0xBF)
  else if b == 0xF4 then some (4, 3, 0x80, 0x8F)
  else none

/-- The bits of some bytes that follow a first one, and the bytes after them. There are no bits if one
of the bytes is missing. -/
def follow (bits : Nat) : Nat → UInt8 → UInt8 → List UInt8 → Option Nat × List UInt8
  | 0, _, _, bs => (some bits, bs)
  | _ + 1, _, _, [] => (none, [])
  | n + 1, low, high, b :: bs =>
    if low ≤ b && b ≤ high then follow (64 * bits + b.toNat % 64) n 0x80 0xBF bs else (none, b :: bs)

theorem length_follow_le (bits n : Nat) (low high : UInt8) (bs : List UInt8) :
    (follow bits n low high bs).2.length ≤ bs.length := by
  fun_induction follow bits n low high bs with
  | case1 => exact Nat.le_refl _
  | case2 => exact Nat.le_refl _
  | case3 _ _ _ _ _ _ _ ih => exact Nat.le_succ_of_le ih
  | case4 => exact Nat.le_refl _

/-- The characters of some bytes, with `none` for each part that is no character. -/
def chars : List UInt8 → List (Option Char)
  | [] => []
  | b :: bs =>
    if b < 0x80 then some (Char.ofNat b.toNat) :: chars bs
    else
      match lead? b with
      | none => none :: chars bs
      | some (bits, n, low, high) =>
        (follow bits n low high bs).1.map Char.ofNat :: chars (follow bits n low high bs).2
termination_by bs => bs.length
decreasing_by
  · simp
  · simp
  · exact Nat.lt_succ_of_le (length_follow_le bits n low high bs)

/-- The text of some bytes, if they are one. -/
def decode? (bs : List UInt8) : Option String :=
  ((chars bs).mapM id).map String.ofList

/-- The text of some bytes, with a replacement character for each part that is none. -/
def decodeLossy (bs : List UInt8) : String :=
  String.ofList ((chars bs).map (·.getD '\ufffd'))

end JobMatrix.Utf8
