namespace ReportSheets.Archive

def crcBit (crc : UInt32) : UInt32 :=
  if crc &&& 1 = 1 then (crc >>> 1) ^^^ 0xEDB88320 else crc >>> 1

def crcByte (crc : UInt32) (byte : UInt8) : UInt32 := Nat.repeat crcBit 8 (crc ^^^ byte.toUInt32)

def checksum (bytes : ByteArray) : UInt32 := ~~~(bytes.data.foldl crcByte 0xFFFFFFFF)

end ReportSheets.Archive
