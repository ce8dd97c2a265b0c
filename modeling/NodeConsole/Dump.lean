import NodeConsole.Text.Digits
import NodeConsole.Text.Utf8

/-! Bytes for a reader: as characters, and as rows of sixteen. -/
namespace NodeConsole.Dump
open Text (Bytes)

def perRow : Nat := 16

/-- Printable ASCII as it is, a point for anything else. -/
def visible (b : UInt8) : Char := if 0x20 ≤ b && b ≤ 0x7E then Char.ofNat b.toNat else '.'

def ascii (bs : Bytes) : List Char := bs.map visible

def rows (bs : Bytes) : List Bytes :=
  if bs.isEmpty then [] else bs.take perRow :: rows (bs.drop perRow)
termination_by bs.length
decreasing_by
  have : 0 < bs.length := List.length_pos_iff.2 (by rintro rfl; simp_all)
  simp only [List.length_drop, perRow]
  omega

def hexColumn (row : Bytes) : List Char := [' '].intercalate (row.map Text.hexByte)

def padEnd (width : Nat) (s : List Char) : List Char := s ++ List.replicate (width - s.length) ' '

def row (offset : Nat) (bs : Bytes) : List Char :=
  Text.hexAtLeast 8 offset ++ [' ', ' '] ++ padEnd (perRow * 3 - 1) (hexColumn bs)
    ++ [' ', ' ', '|'] ++ ascii bs ++ ['|']

def lines (bs : Bytes) : List (List Char) :=
  (rows bs).mapIdx fun i r => row (i * perRow) r

/-- The rows, a newline between each two. -/
def hexdump (bs : Bytes) : List Char := ['\n'].intercalate (lines bs)

end NodeConsole.Dump
