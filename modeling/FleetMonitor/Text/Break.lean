import FleetMonitor.Text.CodeSet

/-!
# Where texts may be broken

The kinds of characters that tell where one drawn character, one word or one sentence
ends and the next one starts.
-/

set_option autoImplicit false

namespace FleetMonitor.Text

/-- A kind of characters under its names: in small letters, without separators. -/
structure BreakKind where
  names : List String
  pieces : List String

namespace BreakKind

def members (kind : BreakKind) : CodeSet :=
  CodeSet.ofPieces kind.pieces

def drawnCharacters : List BreakKind :=
  [⟨["cr"], ["NA"]⟩,
   ⟨["control", "cn"],
     ["AJABARdQbGMAcbLAguQAdaPABBXGbWPcrnJdaTltEAjFLttZPbzqTDhwWHbtkzKbFdReXjFfiL"]⟩,
   ⟨["extend", "ex"],
     ["bdOeHkOGkCbSAAABABAAcTKbVUPAdWGBFBBADbIAbDbAdMKcFIIAXDAIACAEbQCcGIbPXAbFcCAAADHDACGJBb",
      "CAcFAAABDHAIAJBZABBcEADBDBBCCAbDBCAKBcEADEABDATBVFAAcFAABADHAGCJBbDAcGAAALAIAbNACAcCAA",
      "CECADGBKBbCAcFABBAACCADGBKBbBBcEBAABDHAIAJBbCAcTADABCAAHAdCABGLHdTABIKGcUBbAAAAAAcCNAE",
      "ABEKAbJIAdXDAFABBBYBDCPDMABBFAOAbbACbkJDbBCbCBbDBcLBAGHABKIAbSCAAeMBbHAeNCDBIAFCiKBBAc",
      "FAAGAAAABHFJBAbVbEbWDbVJDCbLILBbFDBFcDAABCAAEcDHBBfVCAMAGDAFACBhPcLuDAhMbGeoBCfKAdRbFv",
      "HFeABbsqDDAJbFBdBBkLACADAYBEAfUBZRMAbLHYKAAbRCbVABDBBBAbJAcOFBBBBLAHAbUAbYAACBBEBAAbPB",
      "HAjDABADAbdzRAbcIPPPoBBxGAiRAfSEcmFCABEDbNCDAgIBwADcMEmEBdADcRKbWDeSAcBObOABBJCbWDBBGA",
      "cICbJEAHcJALBbZIAAHDBAdQCBDFABAgAACHUBcEBAAAALAIANGCEcOABFAABAACDCAANBdGHBCAAWAdCABFAA",
      "BAABABjAABDFBABbABdGHBAABeBAAABHdWAAABDAEjYIABjKAJDDAfNDBBDAbFJbNFBDHAIFBCbTMABpPGAFAA",
      "dDVBGABABeRFCAABAGAAcTBCAAAnIBKBbZEECWAhxSAFOqyXLCCdrZEcGGboHAcKDdCAKBbdaWBgyYbTBWuVEC",
      "FHHBGbDDfRCcyCcCDbXHANAVEAOcaHGAQBGABAEdVAgDGoKAcIDtNDjTBbcHGeEGebFEbsxyTdReXjF"]⟩,
   ⟨["l"], ["glKdRcfoPbC"]⟩,
   ⟨["lf"], ["KA"]⟩,
   ⟨["lv"],
     ["cndOAbAAbAAbAAbAAbAAbAAbAAbAAbAAbAAbAAbAAbAAbAAbAAbAAbAAbAAbAAbAAbAAbAAbAAbAAbAAbAAbAA",
      "bAAbAAbAAbAAbAAbAAbAAbAAbAAbAAbAAbAAbAAbAAbAAbAAbAAbAAbAAbAAbAAbAAbAAbAAbAAbAAbAAbAAbA",
      "AbAAbAAbAAbAAbAAbAAbAAbAAbAAbAAbAAbAAbAAbAAbAAbAAbAAbAAbAAbAAbAAbAAbAAbAAbAAbAAbAAbAAb",
      "AAbAAbAAbAAbAAbAAbAAbAAbAAbAAbAAbAAbAAbAAbAAbAAbAAbAAbAAbAAbAAbAAbAAbAAbAAbAAbAAbAAbAA",
      "bAAbAAbAAbAAbAAbAAbAAbAAbAAbAAbAAbAAbAAbAAbAAbAAbAAbAAbAAbAAbAAbAAbAAbAAbAAbAAbAAbAAbA",
      "AbAAbAAbAAbAAbAAbAAbAAbAAbAAbAAbAAbAAbAAbAAbAAbAAbAAbAAbAAbAAbAAbAAbAAbAAbAAbAAbAAbAAb",
      "AAbAAbAAbAAbAAbAAbAAbAAbAAbAAbAAbAAbAAbAAbAAbAAbAAbAAbAAbAAbAAbAAbAAbAAbAAbAAbAAbAAbAA",
      "bAAbAAbAAbAAbAAbAAbAAbAAbAAbAAbAAbAAbAAbAAbAAbAAbAAbAAbAAbAAbAAbAAbAAbAAbAAbAAbAAbAAbA",
      "AbAAbAAbAAbAAbAAbAAbAAbAAbAAbAAbAAbAAbAAbAAbAAbAAbAAbAAbAAbAAbAAbAAbAAbAAbAAbAAbAAbAAb",
      "AAbAAbAAbAAbAAbAAbAAbAAbAAbAAbAAbAAbAAbAAbAAbAAbAAbAAbAAbAAbAAbAAbAAbAAbAAbAAbAAbAAbAA",
      "bAAbAAbAAbAAbAAbAAbAAbAAbAAbAAbAAbAAbAAbAAbAAbAAbAAbAAbAAbAAbAAbAAbAAbAAbAAbAAbAAbAAbA",
      "AbAAbAAbAAbAAbAAbAAbAAbAAbAAbAAbAAbAAbAAbAAbAAbAAbAAbAAbAAbAAbAAbAAbAAbAAbAAbAAbAAbAAb",
      "AAbAAbAAbAAbAAbAAbAAbAAbAAbAAbAAbAAbAAbAAbAAbAAbAAbAAbAAbAAbAAbAAbAAbAAbAAbAAbAAbAAbAA",
      "bAAbAAbAAbAAbAAbAAbAAbAAbAAbAAbAAbAAbAAbAAbAAbAAbAAbAAbAAbAAbAAbAAbAAbAAbAAbAAbAA"]⟩,
   ⟨["lvt"],
     ["cndPbAAbAAbAAbAAbAAbAAbAAbAAbAAbAAbAAbAAbAAbAAbAAbAAbAAbAAbAAbAAbAAbAAbAAbAAbAAbAAbAAb",
      "AAbAAbAAbAAbAAbAAbAAbAAbAAbAAbAAbAAbAAbAAbAAbAAbAAbAAbAAbAAbAAbAAbAAbAAbAAbAAbAAbAAbAA",
      "bAAbAAbAAbAAbAAbAAbAAbAAbAAbAAbAAbAAbAAbAAbAAbAAbAAbAAbAAbAAbAAbAAbAAbAAbAAbAAbAAbAAbA",
      "AbAAbAAbAAbAAbAAbAAbAAbAAbAAbAAbAAbAAbAAbAAbAAbAAbAAbAAbAAbAAbAAbAAbAAbAAbAAbAAbAAbAAb",
      "AAbAAbAAbAAbAAbAAbAAbAAbAAbAAbAAbAAbAAbAAbAAbAAbAAbAAbAAbAAbAAbAAbAAbAAbAAbAAbAAbAAbAA",
      "bAAbAAbAAbAAbAAbAAbAAbAAbAAbAAbAAbAAbAAbAAbAAbAAbAAbAAbAAbAAbAAbAAbAAbAAbAAbAAbAAbAAbA",
      "AbAAbAAbAAbAAbAAbAAbAAbAAbAAbAAbAAbAAbAAbAAbAAbAAbAAbAAbAAbAAbAAbAAbAAbAAbAAbAAbAAbAAb",
      "AAbAAbAAbAAbAAbAAbAAbAAbAAbAAbAAbAAbAAbAAbAAbAAbAAbAAbAAbAAbAAbAAbAAbAAbAAbAAbAAbAAbAA",
      "bAAbAAbAAbAAbAAbAAbAAbAAbAAbAAbAAbAAbAAbAAbAAbAAbAAbAAbAAbAAbAAbAAbAAbAAbAAbAAbAAbAAbA",
      "AbAAbAAbAAbAAbAAbAAbAAbAAbAAbAAbAAbAAbAAbAAbAAbAAbAAbAAbAAbAAbAAbAAbAAbAAbAAbAAbAAbAAb",
      "AAbAAbAAbAAbAAbAAbAAbAAbAAbAAbAAbAAbAAbAAbAAbAAbAAbAAbAAbAAbAAbAAbAAbAAbAAbAAbAAbAAbAA",
      "bAAbAAbAAbAAbAAbAAbAAbAAbAAbAAbAAbAAbAAbAAbAAbAAbAAbAAbAAbAAbAAbAAbAAbAAbAAbAAbAAbAAbA",
      "AbAAbAAbAAbAAbAAbAAbAAbAAbAAbAAbAAbAAbAAbAAbAAbAAbAAbAAbAAbAAbAAbAAbAAbAAbAAbAAbAAbAAb",
      "AAbAAbAAbAAbAAbAAbAAbAAbAAbAAbAAbAAbAAbAAbAAbAAbAAbAAbAAbAAbAAbAAbAAbAAbAAbAAbAAbA"]⟩,
   ⟨["prepend", "pp"], ["chCFiGAbWAoTBdBAbrMAdugJAOAjJBuEAcbKAAAjNAcUFbaXArAA"]⟩,
   ⟨["regionalindicator", "ri"], ["hgoKZ"]⟩,
   ⟨["spacingmark", "sm"],
     ["dkTAcCABCHDABbXBcGBFBBBcBAcFCcNAcFCHAABcABcHAFBBBeJAABCCACbZCcIDcIBcFABAABbTANBcGBECAC",
      "cABcXBFGSBcKAeWAfHBcKAgUAIBYBbRAcsUAGHABnHDBCDBAFiPBcFAAAUFfOAcEDcLAbDADBcKABCAAcAHHBg",
      "OAUAcasGBBAdJBbXPfLAbVAbVBDBBBeGBBBXAgAABBEAjCBABABAAblxIAAAeWAbSCDBeKAXBcGAbVCIANAdOC",
      "CBgPCbEBcGAADBBBBUBdGBOAABdYCHBCAeCBFAABAABAjDBFDBAeICHBAAeEAABeFAGAkACIAjNEABGAAAfLCH",
      "DDAdFAbCBcJApQANAeBAGABAiEEDBAAnLBLAbVBHByyZCfjFcC"]⟩,
   ⟨["t"], ["grWdJcwxMbW"]⟩,
   ⟨["v"], ["gpCcTcwzVWcerBACD"]⟩,
   ⟨["zwj"], ["mdPA"]⟩]

def words : List BreakKind :=
  [⟨["aletter", "le"],
     ["cNZFZbUAJADAEWAbEAsLFbHeHEABBDAAFAACAAATAdEAfIHgJAbLBDAAAbOAAdZAbRbQbIBAdUAAOBGBJCBAPA",
      "AbDbCdKKAXbGIBDAEVDAIACAWYGKEXAFQbPcFcBCARAGJOPDHBBBVAGAACDCAPAMBACNBJAHFDBBVAGABABABb",
      "EDAASCPIACAVAGABAECARAOBWAKHBBBVAGABAECAbDBACOAQAAFCCADCBAAABCBCCCLVAbZHACAWAPCAZCBABB",
      "bDADHACAWAJAECAbEBABOBQIACAbOBAPAECHCXFERCXAIAABGmAAcKHAbJbAEkObLAAEABbQAmUADBGAAADBbO",
      "ADBbGADBGAAADBOAcEADBcObKPPdHBFCxVBQAZEcWCKGRMSNRNMACgSdKGEBbHAAEcRJbEiQWjDbUQHcBbDMBJ",
      "bRZbJbOCJbJBKEbQBCbODAFABCAEhJcLkRBFBbLBFBHAAAAAAAbEBcAAGAACCAGCDBFDMECAGeLAMAPMdWADAB",
      "JAACEFAAAAAADAKBDEEDAQbObfGbZcrTiUFDCBLbLAAEABcDGAPWIGAGAGAGAGAGAGAGdBAsAAcABhRbQAdPQb",
      "FbptNbsUcObTBkICPJBTbUPbEBdBXhPBBAAAHUPACADAWbCbZNbXcJFCAABKbBJWYbCGbUbBAbVbOWCAHfRKGC",
      "LFBFBFIGAGAcFFeKbCqnRLWDbWngTGLEcDdTbGnYRcLBcBbNLeLEAfEbJZFZcQbECFBFBFBCbILAZASABAOBNb",
      "HeScQcAkGbCCbWbUbFMbDEbLJbDBbJDHAEbPgBRbJDbJDbNHbZLKAOAGABAKAOAGABCbZLlYIVJHXFAbPAIcQF",
      "BAAbRABCABWJWIbEcMSABJVJZcRcDFBcLAODACAbCbPbCCbCbIHAbBbAcBJVJSMReFcUcCbYMbYMbJbLbBIWjP",
      "bPFBPCcGbCJAHVbPRbTUbAWLcAcEBBAMbSbFYZbJbCABAHbICALbVNDUAAAbIRAYSBcKGAAADAOAJGbUbLHBBB",
      "VAGABAECARALEbDJAABAAbLAAYAAAbRcARDTCbDbVTBAAhBbUbODbJbVTAcGbQMAmObReLcLbEHBABHABAXOAA",
      "AdPHBbMPAAAbBAJbNGAUAKbTSARcUhQbGbEIAbKQAbWbDeHGABAbLUAYFABAbFNAmOSOAAMAbHeTAdAbjLdXeG",
      "QhNdxJdSObpFQFYfxQEwKkdCbDcpTvWGbEQdAQbDRbVPDbEUESqPbSiCcLeXcWEAcNMcLBAAbcvJeCEMCIGJiw",
      "JdGAcSABBABBBDALAAAGAcMADBHAGAbBADAEAACGAnBBYAYAbEAYAbEAYAbEAYAbEAYAHcsXbEFFkAcJfPbSJG",
      "PAmIbDRbRsPbBiTbDBAtAGADABAOAhOcGcPGAbuHDAbAABAABAAJADAAAAFADAAAAAACABAABAAAAAAAAAABAA",
      "BDAGADADAAAJAQECAEAQyDZFZFZ"]⟩,
   ⟨["cr"], ["NA"]⟩,
   ⟨["doublequote", "dq"], ["bIA"]⟩,
   ⟨["extend"],
     ["bdOeHkOGkCbSAAABABAAcTKbVUPAdWGBFBBADbIAbDbAdMKcFIIAXDAIACAEbQCcGIbPXAbGcBCARAGJBbCCcD",
      "AAGBBBCIAJBZABCcDAAEDBBCCAbDBCAKCcDAAHACACTBVFACcDAAGBBBCGCJBbDAcGECCADIAbNEcCAAGACADG",
      "BKBbCCcDAAGACADGBKBOALDcCBAGACADIAJBbCCcRADFAAAHRBcIABGLHdTABIKGcUBbAAAAAADBbWTABEKAbJ",
      "IAdVTWDDCACBGCDMLAAJDbbACbkJDbBCbCBbDBcLbFIAbSCAAeMBbHAeNLDLiKEcEJAbCBAbVbEbWEbUQbLILC",
      "bDMcDNbVTfVCAUDAFABChPcLuDAhMbGeoBCfKAdRbFvHFeABbsqDDAJbFBdBBkLACADAWEDAdEBbXRZRMAbLHY",
      "MbRDbUNbJAcONLAHBbSCbXAACBBEBAAbOEEBjBHABbdzRAbcIPPPoBBxGAiRAfSEcmFCABEDbNCDAgIBwADcME",
      "mEBdADcRKbWDeRCcAObOABBJDbSKGAcICbJNPBbRALCbVNHDABdNLFABAgALUDcCBAGBBBCIAJBBGCEcOIAABA",
      "ADAEAANBdDRWAdCTjAGBIbABdDQeBMdWOjVOjKFABBDAAABfKGBGCAbBJbNGADHAIKbTPpOHAHdDVANeRFCAAB",
      "AGAAcNEABAEnIDIBAAbVGCEWAhxSAFOqyXRdrZEcGGboHAAcCGDdCAKBbdaWBgyYbTBWuVECFHHBGbDDfRCcyC",
      "cCDbXHANAVEAOcaHGAQBGABAEdVAgDGoKAcIDtNDjTBbcHGeEGebFEbsxyTdReXjF"]⟩,
   ⟨["extendnumlet", "ex"], ["dRAmbEAOBSAdgaNBXCjEA"]⟩,
   ⟨["format", "fo"], ["gRAcaJFVAhJAbWAoTBdBAftIAdaSBZEbWEAJdghIAjOCgiYAOAnkJPbzqTDhwWHbtkzLA"]⟩,
   ⟨["hebrewletter", "hl"], ["cfGbADDdovXAAJAMAEAAABABAJ"]⟩,
   ⟨["katakana", "ka"], ["sgNEdWBCdMADjFPhZbUAdJczhDcDcouBDAGABAAlACbXAND"]⟩,
   ⟨["lf"], ["KA"]⟩,
   ⟨["midletter", "ml"], ["cGAeTAbbQAsCAfRAjxXAdgbAAcMAhNA"]⟩,
   ⟨["midnum", "mn"], ["bSANAbgBAuBAeZBdPApEAjfEAdfzUACAcGACAhAANA"]⟩,
   ⟨["midnumlet", "mb"], ["bUAmcEBJAdgdOAgXAFA"]⟩,
   ⟨["newline", "nl"], ["LBePAlzLB"]⟩,
   ⟨["numeric", "nu"],
     ["bWJciNJAAfBJhPJpVJeNJeNJeNJeNJeNJeNJeNJeNJeNJdRJeNJcRJkRJcRJctPJbLJlNJeXJgJJFJgZJdHJfD",
      "JFJcaeNJbaBJbLJhPJVJdHJpPJbfmBJccJJdfXJFJbePJeXJcHJfNJkRJnDJeNJoJJdXJFTcXJqFJdXJzLJdHJ",
      "jLJcRJqFJyyFJdmBJdHJfDJuNJbkdXJecPbXdnBJqFJtHJjMJbgUJhaZJ"]⟩,
   ⟨["regionalindicator", "ri"], ["hgoKZ"]⟩,
   ⟨["singlequote", "sq"], ["bNA"]⟩,
   ⟨["wsegspace"], ["bGAimGAdpMGACdFAfxVA"]⟩,
   ⟨["zwj"], ["mdPA"]⟩]

def sentences : List BreakKind :=
  [⟨["aterm", "at"], ["bUAmcQAdgdOAhEA"]⟩,
   ⟨["cr"], ["NA"]⟩,
   ⟨["close", "cl"],
     ["bIADCbWAAAbCAAAbSAOAfmRDcuMBdpIHYBJBcBBNByIDbCBbpFFGNdABbEJpMVcKDbFBbnLNNBBJXARHqKJBHA",
      "CczrPBiGBbBPBBPFgMBbWAAAbCAAAABABdpoRC"]⟩,
   ⟨["extend", "ex"],
     ["bdOeHkOGkCbSAAABABAAcTKbVUPAdWGBFBBADbIAbDbAdMKcFIIAXDAIACAEbQCcGIbPXAbGcBCARAGJBbCCcD",
      "AAGBBBCIAJBZABCcDAAEDBBCCAbDBCAKCcDAAHACACTBVFACcDAAGBBBCGCJBbDAcGECCADIAbNEcCAAGACADG",
      "BKBbCCcDAAGACADGBKBOALDcCBAGACADIAJBbCCcRADFAAAHRBcIABGLHdTABIKGcUBbAAAAAADBbWTABEKAbJ",
      "IAdVTWDDCACBGCDMLAAJDbbACbkJDbBCbCBbDBcLbFIAbSCAAeMBbHAeNLDLiKEcEJAbCBAbVbEbWEbUQbLILC",
      "bDMcDNbVTfVCAUDAFABChPcLuDBhLbGeoBCfKAdRbFvHFeABbsqDDAJbFBdBBkLACADAWEDAdEBbXRZRMAbLHY",
      "MbRDbUNbJAcONLAHBbSCbXAACBBEBAAbOEEBjBHABbdzRAbcIPPPoBBxGAiRAfSEcmFCABEDbNCDAgIBwADcME",
      "mEBdADcRKbWDeRCcAObOABBJDbSKGAcICbJNPBbRALCbVNHDABdNLFABAgALUDcCBAGBBBCIAJBBGCEcOIAABA",
      "ADAEAANBdDRWAdCTjAGBIbABdDQeBMdWOjVOjKFABBDAAABfKGBGCAbBJbNGADHAIKbTPpOHAHdDVANeRFCAAB",
      "AGAAcNEABAEnIDIBAAbVGCEWAhxSAFOqyXRdrZEcGGboHAAcCGDdCAKBbdaWBgyYbTBWuVECFHHBGbDDfRCcyC",
      "cCDbXHANAVEAOcaHGAQBGABAEdVAgDGoKAcIDtNDjTBbcHGeEGbtcaEdReXjF"]⟩,
   ⟨["format", "fo"], ["gRAcaJFVAhJAbWAoTBdBAftIAdaPABBZEbWEAJdghIAjOCgiYAOAnkJPbzqTDhwWHbtkzLA"]⟩,
   ⟨["lf"], ["KA"]⟩,
   ⟨["lower", "lo"],
     ["dTZbUAJADAbJXAHAAAAAAAAAAAAAAAAAAAAAAAAAAAAAAAAAAAAAAAAAAAAAAAAAAAAAAABAAAAAAAAAAAAAAA",
      "BAAAAAAAAAAAAAAAAAAAAAAAAAAAAAAAAAAAAAAAAAAAAAABAAAACBAAABACBDABACCBABAAAAABAABAABACAA",
      "ABBBCFABABAAAAAAAAAAAAAAAABAAAAAAAAAAAAAAAAABBAAACAAAAAAAAAAAAAAAAAAAAAAAAAAAAAAAAAAAA",
      "AAAAAAAAAAAAAAAAAAAAAAGBABBAADAAAAAAAAcQAbJGBbDEfJAAACABDRAbAbIABCCAAAAAAAAAAAAAAAAAAA",
      "AAAAEAABABBbYbVAAAAAAAAAAAAAAAAAAAAAAAAAAAAAAAAAAIAAAAAAAAAAAAAAAAAAAAAAAAAAAAAAAAAAAA",
      "AAAAAAAAAAAAAAAAABAAAAAAAAAAAABAAAAAAAAAAAAAAAAAAAAAAAAAAAAAAAAAAAAAAAAAAAAAAAAAAAAAAA",
      "AAAAAAAAAAAAAAAAAAAAAAAAAAAAAAAAAAAAAAAAAbVbOeiSAbdIFdfTIAAeMhJcMAAAAAAAAAAAAAAAAAAAAA",
      "AAAAAAAAAAAAAAAAAAAAAAAAAAAAAAAAAAAAAAAAAAAAAAAAAAAAAAAAAAAAAAAAAAAAAAAAAAAAAAAAAAAAAA",
      "AAAAAAAAAAAAAAAAAAAAAAAAAAAAAAAAAAAAAAAAAIAAAAAAAAAAAAAAAAAAAAAAAAAAAAAAAAAAAAAAAAAAAA",
      "AAAAAAAAAAAAAAAAAAAAAAAAAAAAAAAAAAAAAAAAAAAAAAAAAAAAAIHFJHHHHFJHHHHNBHHHHHHEABFACCABHD",
      "BBHHJCABeQAMAPMeEACBCAbAADADABBHDDAbGPDAbgKZctPbVAACBAAAAAADAABAHCAAAAAAAAAAAAAAAAAAAA",
      "AAAAAAAAAAAAAAAAAAAAAAAAAAAAAAAAAAAAAAAAAAAAAAAAAAAAAAAAAAAAAAAAAAAAAAAAAAAAAABGAAADAL",
      "bLAAEAbtwCAAAAAAAAAAAAAAAAAAAAAAAAAAAAAAAAAAAAAAAAAAAAASAAAAAAAAAAAAAAAAAAAAAAAAAACfCA",
      "AAAAAAAAAAACAAAAAAAAAAAAAAAAAAAAAAAAAAAAAAAAAAAAAAAAAAAAAAAAAAAAAAAAAAAAAJAAAABAAAAAAA",
      "AADAAABAACAAAAAAAAAAAAAAAAAAAAEAEAAAAAAAAAAAAAAADAAABACAAAAAAAAAAAVCAAACbfObQANFdBbeaH",
      "GLEboYZbvGbNfFbJfYKAOAGABrIABCAbPAIbxKbYeUVegNbFbgjVbFbmmJZZGARZZZDAAAGAKZZZZZZZZZZZZZ",
      "ZZZZbBbBYAFZYAFZYAFZYAFZYAFAAcsXJATFFkAcJdhRbH"]⟩,
   ⟨["numeric", "nu"],
     ["bWJciNJABfAJhPJpVJeNJeNJeNJeNJeNJeNJeNJeNJeNJdRJeNJcRJkRJcRJctPJbLJlNJeXJgJJFJgZJdHJfD",
      "JFJcaeNJbaBJbLJhPJVJdHJpPJbfmBJccJJdfXJFJbePJeXJcHJfNJkRJnDJeNJoJJdXJFTcXJqFJdXJzLJdHJ",
      "jLJcRJqFJyyFJdmBJdHJfDJuNJbkdXJecPbXdnBJqFJtHJjMJbgUJhaZJ"]⟩,
   ⟨["oletter", "le"],
     ["rBADDhZAbJGFLZAAAfCAsPAeNbADEbRbQbIBAdUAAOBGBJCBAPAAbDbCdKKAXbGIBDAEVDAIACAWYGKEXAFQbP",
      "cFcBCARAGJOPDHBBBVAGAACDCAPAMBACNBJAHFDBBVAGABABABbEDAASCPIACAVAGABAECARAOBWAKHBBBVAGA",
      "BAECAbDBACOAQAAFCCADCBAAABCBCCCLVAbZHACAWAPCAZCBABBbDADHACAWAJAECAbEBABOBQIACAbOBAPAEC",
      "HCXFERCXAIAABGcFbVABLGcFBAAAEAXAAAJABIABEAAUDbFAcKHAbJbAEeKbQTAPFDDCACBGCDMLAcMbQBmTAD",
      "BGAAADBbOADBbGADBGAAADBOAcEADBcObKPeIxVBQAZEcWCKGRMSNRNMACObZbIADAcOdKGEBbHAAEcRJbEbWb",
      "DBEKbRDZcBWIcAdDAdObUQHcBbDMBJbRZbJbOCJbJRbQBCbODAFABCAbpPDcSCBDekScDGAPWIGAGAGAGAGAGA",
      "GAGdBAsACYIGEBEDdHFCAdLADEbQAdPQbFbVPtRjtNcLbguEcObTBkICPJBcNAPAbFdBbMIdZAFAdYACGACADA",
      "WbCbZNbXcJFCAABKbBJWYbCGbUbBAPEAJJEAbOWCAHTWCACbXAACBBEBAAAXCBKGCLFBFBFIGAGfObIbCqnRLW",
      "DbWmnBoBBeBcOAAJAMAEAAABABAeDbGnYRcLBcBbNLeLEAfEeAcDBbECFBFBFBCbILAZASABAOBNbHeScQcAkG",
      "bCCbWbUbFMbDEbLJbDBbJDHAEeRcZdTbNHbZdNbZLlYIVJHYBeUFBAAbRABCABWJWIbEcMSABJVJZcRcDFBcLA",
      "ODACAbCbPbCCbCbIHAbBbAcBJVJSMReFcUhAbJbLFbEAkLbPFBPCcGbCJAHVbPRbTUbAWLcAcEBBAMbSbFYZbJ",
      "bCABAHbICALbVNDUAAAbIRAYSBcKGAAADAOAJGbUbLHBBBVAGABAECARALEbDJAABAAbLAAYAAAbRcARDTCbDb",
      "VTBAAhBbUbODbJbVTAcGbQMAcSbAbKGhCbRiCHBABHABAXOAAAdPHBbMPAAAbBAJbNGAUAKbTSARcUhQbGbEIA",
      "bKQAbWbDeHGABAbLUAYFABAbFNAmOSOAAMAbHeTAdAbjLdXeGQhNdxJdSObpFQFYfxQEwKkdCbDcpTvWGbEQdA",
      "QbDRbVPDbEUESqPbSpMcWEAcNMcLBAAbBjbZHbvPbOJnfQDAGABAlEOAbCCBANDHpFdkTeCEMCIGJnbBAtGbSJ",
      "GPAmIbDRbRsPbBiTbDBAtAGADABAOAhOfDAbuHDAbAABAABAAJADAAAAFADAAAAAACABAABAAAAAAAAAABAABD",
      "AGADADAAAJAQECAEAQgnZclfBbFgdTFiNBinPNlbKOxXdqVuVcfXhhYEgfF"]⟩,
   ⟨["scontinue", "sc"], ["bSBLAbyNAgRBsVAgbWAEAdbDBgaTAdaaVBAAbCBbCBCABAJAgLBLAcUA"]⟩,
   ⟨["sterm", "st"],
     ["bHAbCAcaAAfQCgXAbQCjLAcIAAACBlGBcpVBbeJADBbdSAhPBgABbSAEAmBBnPDgFBJBBBbCChEBcMBbkTBICe",
      "uWClTAMAVBqMAbshVAkJBiSACAoRBdHBdQAfVBfQCfNBjOAbfcVABBcKBgMAbCAcMAedVBbxCEbRDhGBeMDeWC",
      "eYBFAPBdJBABeDAlLBeMBoIBEOeABjOCtWAAAjQBdIBqDBbaPBcVBbcmABfCAcMBKAvGBlJAbdoFAliLA"]⟩,
   ⟨["sep", "se"], ["fDAlzLB"]⟩,
   ⟨["sp"], ["JAABSAeWAihIAdpMKbJAbUAfxVA"]⟩,
   ⟨["upper", "up"],
     ["cNZdWWAGbGAAAAAAAAAAAAAAAAAAAAAAAAAAAAAAAAAAAAAAAAAAAAAAAAAAAAAAABAAAAAAAAAAAAAAABAAAA",
      "AAAAAAAAAAAAAAAAAAAAAAAAAAAAAAAAAAAAAAAAAABAAAACBAAABACBDABACCBABAAAAABAABAABACAAABCAG",
      "BABABAAAAAAAAAAAAAAAABAAAAAAAAAAAAAAAAABBAAACAAAAAAAAAAAAAAAAAAAAAAAAAAAAAAAAAAAAAAAAA",
      "AAAAAAAAAAAAAAAAAGBABBAADAAAAAAAAlCAAACAHAFAACAAABAQAIbIABCCAAAAAAAAAAAAAAAAAAAAAAAEAB",
      "AABBbYbVAAAAAAAAAAAAAAAAAAAAAAAAAAAAAAAAAIAAAAAAAAAAAAAAAAAAAAAAAAAAAAAAAAAAAAAAAAAAAA",
      "AAAAAAAAAABAAAAAAAAAAAABAAAAAAAAAAAAAAAAAAAAAAAAAAAAAAAAAAAAAAAAAAAAAAAAAAAAAAAAAAAAAA",
      "AAAAAAAAAAAAAAAAAAAAAAAAAAAAAAAAABbLehCbLAAEAbbTdHdgKAoJAAAAAAAAAAAAAAAAAAAAAAAAAAAAAA",
      "AAAAAAAAAAAAAAAAAAAAAAAAAAAAAAAAAAAAAAAAAAAAAAAAAAAAAAAAAAAAAAAAAAAAAAAAAAAAAAAAAAAAAA",
      "AAAAAAAAAAAAAAAAAAAAAAAAAAAAAAAAAIAAAAAAAAAAAAAAAAAAAAAAAAAAAAAAAAAAAAAAAAAAAAAAAAAAAA",
      "AAAAAAAAAAAAAAAAAAAAAAAAAAAAAAAAAAAAAAAAAAAAAIHHFJHHHHFKAAAAAAAHHXHHHHHHEKEKDLEKEkAADA",
      "CCBCBACEFAAAAAADBDJBEAZPSAbfLZcsTbVbVAACBAAAAAADAABAHCAAAAAAAAAAAAAAAAAAAAAAAAAAAAAAAA",
      "AAAAAAAAAAAAAAAAAAAAAAAAAAAAAAAAAAAAAAAAAAAAAAAAAAAAAAAAAAAAAAAAAAHAAADAbtyIAAAAAAAAAA",
      "AAAAAAAAAAAAAAAAAAAAAAAAAAAAAAAAAAASAAAAAAAAAAAAAAAAAAAAAAAAAAAfEAAAAAAAAAAAAACAAAAAAA",
      "AAAAAAAAAAAAAAAAAAAAAAAAAAAAAAAAAAAAAAAAAAAAAAAAAAAAAAJAAAABAAAAAAAADAAABAAACAAAAAAAAA",
      "AAAAAAAAAAAEAEAAAAAAAAAAAAAAADAAABCAEAAAAAAAXAbhaGZbuYbNfFbJfZKAOAGABcqBbYgAVegNbFbgjV",
      "bFbmmPZZZZZZAABBABBBDAHZZZBADBHAGbABADAEAACGbAZZZZZZZZZZZbDYbGYbGYbGYbGYbGAgnKbHdbHZFZ",
      "FZ"]⟩]

end BreakKind

end FleetMonitor.Text
