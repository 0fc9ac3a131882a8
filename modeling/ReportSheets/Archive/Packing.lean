import ReportSheets.Archive.Checksum
import ReportSheets.Archive.Number

namespace ReportSheets.Archive

structure Part where
  name : String
  content : ByteArray

namespace Part

def description (part : Part) : List (Nat × Nat) :=
  let size := part.content.size
  [(2, 20), (2, 0x800), (2, 0), (2, 0), (2, 0x21), (4, (checksum part.content).toNat), (4, size),
    (4, size), (2, part.name.utf8ByteSize)]

def record (part : Part) : ByteArray :=
  fields ((4, partMark) :: part.description ++ [(2, 0)]) ++ part.name.toUTF8 ++ part.content

def entry (part : Part) (offset : Nat) : ByteArray :=
  fields ((4, directoryMark) :: (2, 20) :: part.description ++
    [(2, 0), (2, 0), (2, 0), (2, 0), (4, 0), (4, offset)]) ++ part.name.toUTF8

end Part

def records (start directory : ByteArray) : List Part → ByteArray × ByteArray
  | [] => (start, directory)
  | part :: more =>
    records (start ++ part.record) (directory ++ part.entry start.size) more

def pack (parts : List Part) : ByteArray :=
  let (start, directory) := records .empty .empty parts
  start ++ directory ++ fields [(4, endMark), (2, 0), (2, 0), (2, parts.length),
    (2, parts.length), (4, directory.size), (4, start.size), (2, 0)]

end ReportSheets.Archive
