import FleetMonitor.Text.CodeSet

/-!
# The direction of writing

Which way characters are written, and which take the direction of their surroundings.
-/

set_option autoImplicit false

namespace FleetMonitor.Text

inductive Direction where
  | left
  | right
  | arabic
  | arabicNumber
  | number
  | sign
  | separator
  | terminator
  | neutral
  | boundary
  | mark
  | blank
deriving DecidableEq, Repr

namespace Direction

/-- The characters of each direction, those from left to right apart.  Only characters
that names may hold count. -/
def table : List (Direction × CodeSet) :=
  [(.right, CodeSet.ofPieces
    ["ceOAAABABAIbKrQbQIBDACXDAIACAGbOEAdsuYkXDiQObLJgIFcWJrFcVFbEbGjFbPCEcZbNcTRDeIddvChZdDbH",
     "GU"]),
   (.arabic, CodeSet.ofPieces
    ["chKABAAAMbVbHCAdWOBGBJWAbDbCdKKAgRbVPbPdnzRQbaLAfnFbJpXFdZVKIdfsWhW"]),
   (.arabicNumber, CodeSet.ofPieces ["ckUJABdvnEZkRbE"]),
   (.number, CodeSet.ofPieces ["bWJcoBJdrkGbA"]),
   (.sign, CodeSet.ofPieces ["bRAAAmvRA"]),
   (.separator, CodeSet.ofPieces ["bSAABJAcfGAjyCA"]),
   (.terminator, CodeSet.ofPieces
    ["bJCeTDJBbvWAeQBdQAbiSBGAjKAkCAwIAdqOAddZCeEbHeDAiTAbyuTBbthYDcvxDA"]),
   (.neutral, CodeSet.ofPieces
    ["bHBCEPbLZDbHADIGbHbEArGBGNBbBAQeMAeXApMEeOBFBhXAJAkHDbnCFAAeUGbaWDbqNJdXAzPBnAbAlWFfVbHc",
     "hRXMOAZgIbLPTcHfFBlDcQZAbeJAnAjVbdNiUFNGjVtWCYOAFAECdRAdLAhNbLkoFcLbguHcCmNCdUAJBeXbHdXA",
     "gCDcTDbcZBbelAwAcQBbaVAcJcYCQcvTAuQGvLAnPHoMTcgVMdoPHDQbehBAbiwYbcYbdFdKCAhDdIklSwDcICcI",
     "AgVdqO"]),
   (.boundary, CodeSet.ofPieces ["AIENdUAlyPB"]),
   (.mark, CodeSet.ofPieces
    ["bdOeHkOGkCbSAAABABAAcTKbVUPAdWGBFBBADbIAbDbAdMKcFIIAXDAIACAEbQCcGIbPcEcCAAADHDACGJBbCAcF",
     "ADDHATBZEcEADQbDBCAKBcEADHDATBVHcFABAADHJKBbDAcIALAbXACAcCAACEQKBbCAcFAOBTBbBBcEBDDHATBb",
     "CAcTAGEdLABGLHdTABIKGcUBbAAAAAAcCNAEABEbVIAdXDAFABBBYBDCPDMABBFAOAbbACbkJCbCBbDBbDBcOGHA",
     "BKIAgKBbHAeNCDBIAFCiKBBAcFAAIAABHFMbVdFbVAAEAAEAbNILBbFDBBACcDAABCAACcFHBBfVCAMAGDAFACBh",
     "PcLbbRbGeoBCfKAdRbFvHDeCBbsqDDAJbFBdBBkLACADAYBEAfUBZRMAbLHYKbTCbVABDBBbMAcOFBBBBLAHAbUA",
     "bYAACBBEBAAbPBHAjDABADAbdzRAbdOPblKAiRAfSEcmFObNHgIBwADcMEmEBcYFcRKbWDeSAcBObOABBJCbWDBB",
     "GAcICbJEAHcJALBbZIJDBAdQCBAABFABAgAACHUBcEBCAbKOcRFMAAAAANBdGHBCAAWAdFFAADBABjDDFBABbABd",
     "GHBAABeBAAABFAAdWAAABDAEjYIABjVBAADAfNHDAbFFBBbNFBDHAIFBCbTMABhPAACAAhSNdFVBGABABeRUAAcT",
     "BCAAAnIBKBbZEEAAAWAhxSAFOqyXLCCdrZEcGGboHAcKDdCAbdbJBgyYcSuXCQHBGbDDfRCcyCcCDbXHANAVUcaH",
     "fNgDGoKAcIDtNDjTBjIABAGBEAsFGeEG"]),
   (.blank, CodeSet.ofPieces ["JENE"])]

def ofChar (c : Char) : Direction :=
  ((table.find? fun entry => entry.2.contains c).map (·.1)).getD left

end Direction

end FleetMonitor.Text
