namespace ReportSheets.Archive

inductive Fault
  | corrupt
  | checksum
deriving DecidableEq

inductive Content
  | bytes (content : ByteArray) (fault : Option Fault)
  /-- Encrypted, or packed in a way that is not known. -/
  | locked

end ReportSheets.Archive
