import Mathlib.Data.List.Basic
import Mathlib.Data.List.Infix

/-! # Files behind a descriptor

A file as one descriptor sees it: bytes, and the offset at which the next write lands. A write
may take fewer bytes than it was offered, and whoever wants all of them written has to repeat
it.
-/

namespace Foundation

/-- An open file. -/
structure OpenFile where
  bytes : List UInt8
  offset : ℕ
  deriving DecidableEq, Repr

namespace OpenFile

/-- The bytes land at the offset, over what is there, past a hole of zeros if need be. -/
def put (file : OpenFile) (data : List UInt8) : OpenFile where
  bytes := file.bytes.take file.offset ++
    List.replicate (file.offset - file.bytes.length) 0 ++ data ++
    file.bytes.drop (file.offset + data.length)
  offset := file.offset + data.length

/-- The file is cut, or filled with zeros, to a length. -/
def truncate (file : OpenFile) (length : ℕ) : OpenFile :=
  { file with
    bytes := file.bytes.take length ++ List.replicate (length - file.bytes.length) 0 }

def seek (file : OpenFile) (offset : ℕ) : OpenFile := { file with offset }

/-- The next write appends. -/
def AtEnd (file : OpenFile) : Prop := file.offset = file.bytes.length

variable {file : OpenFile} {data : List UInt8}

theorem put_bytes (h : file.AtEnd) : (file.put data).bytes = file.bytes ++ data := by
  rw [AtEnd] at h
  simp [put, h]

theorem put_atEnd (h : file.AtEnd) : (file.put data).AtEnd := by
  have hbytes : (file.put data).bytes = _ := put_bytes h
  rw [AtEnd] at h ⊢
  rw [hbytes, List.length_append, put, h]

theorem truncate_bytes {front rest : List UInt8} (h : file.bytes = front ++ rest) :
    (file.truncate front.length).bytes = front := by
  simp [truncate, h]

end OpenFile

/-- What a write answers: how many bytes it took, or that it was interrupted, or failed. -/
inductive WriteResult where
  | accepted (count : ℕ)
  | interrupted
  | failed
  deriving DecidableEq, Repr

end Foundation
