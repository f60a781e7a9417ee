import FleetMonitor.Text.CodeSet

/-!
# Properties of characters

The properties that a character has or has not, each as the packed form of the set
of its characters.
-/

set_option autoImplicit false

namespace FleetMonitor.Text

/-- A property under its names: in small letters, without separators. -/
structure Property where
  names : List String
  pieces : List String

def Property.members (property : Property) : CodeSet :=
  CodeSet.ofPieces property.pieces

namespace Property

def alphabeticPieces : List String :=
  ["cNZFZbUAJADAEWAbEArPDLNEGAAAdHAbCRABBDAAFAACAAATAdEAfIHgJAbLBAFbObMNAAABABAAHbADDbCKEcDA",
   "GNdXAHDHDCJCBAPbVMdWXbGIBDAEXBSSYGKEXAGGAHbPJLCGFcXAPACDOMSAHBBBVAGAACDCHBBBBAAHADBAELBJ",
   "ADCAFDBBVAGABABABDEDBBBDAGDAAQFKCAIACAVAGABAECIACABCAODUDDCAHBBBVAGABAECHBBBBIBDBAEMAPBA",
   "FCCADCBAAABCBCCCLDECCACCAFAbNMACAWAPCHACACHBACABBDbBDAHACAWAJAECHACACHBECADMCLMACAbOBHAC",
   "ACAAEDGEVFACARCXAIAABGHFAAAHRBMcFEGFAbYBAAAEAXAAASACBEAAFANDbFAcKHAbJDSDPAbJcOcCAABEPcLJ",
   "DBbLAAEABbQAmUADBGAAADBbOADBbGADBGAAADBOAcEADBcObKPPdHBFCxVBQAZEcWCKGTKULTLMACABLbZBSNAD",
   "AcOdKGbQEcRJbEALDIWbDBEKbRDZcBbBDcKBTbXAWBKCbWbZAOAHbYbPBDJbRAKNcCVCJbJBKEbQBCbODAFABCAE",
   "hJSbHKkRBFBbLBFBHAAAAAAAbEBcAAGAACCAGCDBFDMECAGeLAMAPMdWADABJAACEFAAAAAADAKBDEEDAQbObfGb",
   "ZcrTiUFDCBLbLAAEABcDGAPWIGAGAGAGAGAGAGAGAbFbUAsACYIGEBEDdHFCAdLADEbQAdPQbFbVPtRjtNcLbguE",
   "cObTBkICPJBTbUEHCeIbMIBdYBdDTUAbGXbZLcPAAbRFCAACJbGEbIMbCCbYALOAPPJEAcCINRWCcQAAAAXCBPBD",
   "KFBFBFIGAGAbQANFeSUqnRLWDbWmnBoBBeBbLGLEELAMAEAAABABAeDbGnYRcLBcBbNLeLEAfEbJZFZKdKCFBFBF",
   "BCbILAZASABAOBNbHeScQcAkGbCCbWbUbFMbDEbQEbDBbJDHAEbPgBRbJDbJDbNHbZLKAOAGABAKAOAGABCbZLlY",
   "IVJHXFAbPAIcQFBAAbRABCABWJWIbEcMSABJVJZFZbLcDFBcLDABEHACAbCbPbCCbCbIHAbBbAcBJVJSMReFcUcC",
   "bYMbYMbNbHbBCAEWjPbPABCBPFbXCCbCJAHVbPRbTUbAWIcRbQEJcEIAMYWbYQDHbICAIcLADIBJAAAbIRAbHBAF",
   "DcJGAAADAOAJGcEWDAHBBBVAGABAECHBBBBCAFAEGbBJAABAAbLAJAABAADABCAAAbRcNACADTCbDcNBBAAhBcBB",
   "GYFbHcKAACAcGcBBAcSbABNUGhCcEdYcLbEHBABHABAbDABBBBDdOHBbTBFAAABbAbYBJQcTEARcUdYHdJbGbEIA",
   "bSAGAAbWbDBVANcUGABAbRCAABACAABBXFABAbKABADAAWbRjZWIQAbOCCeGAdAbjLdXeGQhNdxJdSObpFQFYfxQ",
   "EwKkdCbUcpCvWGbEQdAQbDRbVPDbEUESqPbSiCcLbFYBYbRcWDcEGQcLBAALGIkxXbObFdSeKmwQDAGABAlEOAbC",
   "CBANDHpFdkTeCEMCIGJDAiwEdGAcSABBABBBDALAAAGAcMADBHAGAbBADAEAACGAnBBYAYAbEAYAbEAYAbEAYAbE",
   "AYAHcsXbEFFiEGAQBGABAEEcJbGAeHbSJGPAmIbDRbRsPbBiTbDBAhYbEAVHBiPGADABAOAhOcGcPCACAbuHDAbA",
   "ABAABAAJADAAAAFADAAAAAACABAABAAAAAAAAAABAABDAGADADAAAJAQECAEAQyDZFZFZfmJclfBbFgmNBioBBlb",
   "KOxXdqVuVcfXhhYEmoN"]

def casedPieces : List String :=
  ["cNZFZbUAJADAEWAbEAhMADDhZBbIGBbDEdRAbPDBBBDAAFAACAAATAdEAfIHgJAbLIbOefEbLAAEABbQADzVdHBF",
   "dfTKEbQBCcLhJcLkRBFBbLBFBHAAAAAAAbEBcAAGAACCAGCDBFDMECAGeLAMAPMdWADABJAACEFAAAAAADAFDABD",
   "EEDAQbFCBbfKbZcrTiUFDCBLbLAAEAbtwBbTRbDfBdXCDAcYTFACbfObQANFdBbeaHGLEbnSZFZbtSdBdRbJDbJe",
   "LKAOAGABAKAOAGABrIABCAbPAIbuYbYMbYdOVJVefHcLbgiPcLbFYBYbmiDdGAcSABBABBBDALAAAGAcMADBHAGA",
   "bBADAEAACGAnBBYAYAbEAYAbEAYAbEAYAbEAYAHcsXJATFFkAcJdgJcPczZZFZFZ"]

def caseIgnorablePieces : List String :=
  ["bNAFAKAbIAAAcSADAAADABBtIhJDBDAIBAAjQGhYAEAbWbSAAABABAAbRAKFJKAAbIAJUPAdWHAJADbGAAAbDbAd",
   "MKcFKDABAXXbQCbRAGBEIbOcFcCAAADHDACGJBMAOAcFADDHATBZABBcEADBDBBCCAbDBCAKBcEADEABDATBVFAA",
   "cFABAADHAGBKBbDAcIALAbXACAcCAACECADGBKBbCAcFABAFAEBTBbBBcEBDDHATBbCAcTAGCAAdLABGKIdTABII",
   "AAGcUBbAAAAAAcCNAEABEKAbJIAdXDAFABBBYBDCPDMABBFAOAdPAxJCbkJCbCBbDBbDBcLBAGHABKCAEAbSEbYA",
   "cMBbHAeNCDBIAFCiKBBAcFAAGAAAABHFJBAbMAHbTBLTDbVAAEAAEAbNILBbFDBBACcDAABCAACcFHBBcLFdDCAM",
   "AGDAFACBbXcKMAbHdWrCAACKCMCMCMBLEHBJABABEbWEAJAAMAPMbYbGejQBeICeUAOAdRbFbUAsAAbJDCEEAdOF",
   "dOCbqbTAbwBFkJAdTDAJAAbBDdBBNbHcZAWCdXDCBHACADAYBEAfUBZRMAbLHYKbTCbVABDBBQAUBcNFBBBBLAHA",
   "bIAKAbYAACBBEBAAbAANBEBAAdVEICeQABADAbdzRAfQQwAPCALPbHABAgMAGAFAKAbIAAAbUAbSBcOAUCtSAiRA",
   "fSEbnOFAbPAIwJCABEDbNCDAgIBwADbLAZEAAmCBXAbZFcRKbWDeSAcBObOABBJCbWDBBBADAJAbXCbJEAHcJALB",
   "bZIJDBAdQCBAABFABAgAACHUBcEBCAbKGCEcRFMAAAAANBdGHBCAAWAdFFAADBABjDDFBABbABdGHBAABeBAAABF",
   "AAdWAAABDAEjYIABjVBAADAfNDBBDAbFJbNFBDHAIFBCbTMABhPAACAAhSGAFAAdDVBGABABeRFCAABAGAAcTBCA",
   "AAcMAkUBKBbZEEAAAWAhxCQFOqyXLCCdrZEcGGIDtNCbNBsNAcKQcLBABMByfZDAGABeuFBADgyTbTBWuXCIPBGb",
   "DDfRCcyCcCDbXHANAVEAOcaHGAQBGABAEEcJbGAgDNoDAcIDtMEjTBjIABAGBEAIArVGeEHebEEbsxxOAbDdReXj",
   "F"]

def graphemeExtendPieces : List String :=
  ["bdOeHkOGkCbSAAABABAAcTKbVUPAdWGBFBBADbIAbDbAdMKcFIIAXDAIACAEbQCcGIbPXAbFcCAAADHDACGJBbCA",
   "cFAAABDHAIAJBZABBcEADBDBBCCAbDBCAKBcEADEABDATBVFAAcFAABADHAGCJBbDAcGAAALAIAbNACAcCAACECA",
   "DGBKBbCAcFABBAACCADGBKBbBBcEBAABDHAIAJBbCAcTADABCAAHAdCABGLHdTABIKGcUBbAAAAAAcCNAEABEKAb",
   "JIAdXDAFABBBYBDCPDMABBFAOAbbACbkJDbBCbCBbDBcLBAGHABKIAbSCAAeMBbHAeNCDBIAFCiKBBAcFAAGAAAA",
   "BHFJBAbVbTBLTDbVJDCbLILBbFDBFcDAABCAAEcDHBBfVCAMAGDAFACBhPcLuDAhMbGeoBCfKAdRbFvHFeABbsqD",
   "DAJbFBdBBkLACADAYBEAfUBZRMAbLHYKAAbRCbVABDBBBAbJAcOFBBBBLAHAbUAbYAACBBEBAAbPBHAjDABADAbd",
   "zRAbcIPPPoBBxGAiRAfSEcmFCABEDbNCDAgIBwADcMEmEBcYFcRKbWDeSAcBObOABBJCbWDBBGAcICbJEAHcJALB",
   "bZIAAHDBAdQCBDFABAgAACHUBcEBAAAALAIANGCEcOABFAABAACDCAANBdGHBCAAWAdCABFAABAABABjAABDFBAB",
   "bABdGHBAABeBAAABHdWAAABDAEjYIABjKAJDDAfNDBBDAbFJbNFBDHAIFBCbTMABhPAACAAhSGAFAAdDVBGABABe",
   "RFCAABAGAAcTBCAAAnIBKBbZEECWAhxSAFOqyXLCCdrZEcGGboHAcKDdCAKBbdaWBgyYbTBWuVECFHHBGbDDfRCc",
   "yCcCDbXHANAVEAOcaHGAQBGABAEdVAgDGoKAcIDtNDjTBjIABAGBEAsFGeEGbtcaEdReXjF"]

def all : List Property :=
  [⟨["asciihexdigit", "ahex"], ["bWJGFZF"]⟩,
   ⟨["alphabetic", "alpha"], alphabeticPieces⟩,
   ⟨["bidicontrol", "bidic"], ["ciEAjvKBZEcCD"]⟩,
   ⟨["caseignorable", "ci"], caseIgnorablePieces⟩,
   ⟨["cased"], casedPieces⟩,
   ⟨["changeswhencasefolded", "cwcf"],
     ["cNZdLAJWAHbFAAAAAAAAAAAAAAAAAAAAAAAAAAAAAAAAAAAAAAAAAAAAAAAAAAAAAAABAAAAAAAAAAAAAAAABAAA",
      "AAAAAAAAAAAAAAAAAAAAAAAAAAAAAAAAAAAAAAAAAABAAAAAAABAAABACBDABACCBABAAAAABAABAABACAAABCAG",
      "BABABAAAAAAAAAAAAAAAABAAAAAAAAAAAAAAAAABBAAACAAAAAAAAAAAAAAAAAAAAAAAAAAAAAAAAAAAAAAAAAAA",
      "AAAAAAAAAAAAAAAGBABBAADAAAAAAAAjLAbPAAACAHAFAACAAABAQAIVALCCBAAAAAAAAAAAAAAAAAAAAAAAAABB",
      "BAAABBbYbVAAAAAAAAAAAAAAAAAAAAAAAAAAAAAAAAAIAAAAAAAAAAAAAAAAAAAAAAAAAAAAAAAAAAAAAAAAAAAA",
      "AAAAAAAAAABAAAAAAAAAAAABAAAAAAAAAAAAAAAAAAAAAAAAAAAAAAAAAAAAAAAAAAAAAAAAAAAAAAAAAAAAAAAA",
      "AAAAAAAAAAAAAAAAAAAAAAAAAAAAAAABbLbVAefFbLAAEAbfDFdfTJFbQBCmHAAAAAAAAAAAAAAAAAAAAAAAAAAA",
      "AAAAAAAAAAAAAAAAAAAAAAAAAAAAAAAAAAAAAAAAAAAAAAAAAAAAAAAAAAAAAAAAAAAAAAAAAAAAAAAAAAAAAAAA",
      "AAAAAAAAAAAAAAAAAAAAAAAAAAAAAAAAAAEBBAAAAAAAAAAAAAAAAAAAAAAAAAAAAAAAAAAAAAAAAAAAAAAAAAAA",
      "AAAAAAAAAAAAAAAAAAAAAAAAAAAAAAAAAAAAAAAAAAAAAAIHHFJHHHHFKAAAAAAAHHPbVBCBFECBFKDLEECBFlKA",
      "CBFAbSPSAbfLZcsTbVbVAACBAAAAAADAABAHCAAAAAAAAAAAAAAAAAAAAAAAAAAAAAAAAAAAAAAAAAAAAAAAAAAA",
      "AAAAAAAAAAAAAAAAAAAAAAAAAAAAAAAAAAAAAAAAAAAAAAAHAAADAbtyIAAAAAAAAAAAAAAAAAAAAAAAAAAAAAAA",
      "AAAAAAAAAAAAAASAAAAAAAAAAAAAAAAAAAAAAAAAAAfEAAAAAAAAAAAAACAAAAAAAAAAAAAAAAAAAAAAAAAAAAAA",
      "AAAAAAAAAAAAAAAAAAAAAAAAAAAAAAAJAAAABAAAAAAAADAAABAAACAAAAAAAAAAAAAAAAAAAAEAEAAAAAAAAAAA",
      "AAAADAAABAAAAAAAAAAAAAAAAXAbiFdBbeaHGLEbnSZbuYbNfFbJfZKAOAGABcqBbYgAVegNbFbgjVbFcLYbuhYb",
      "H"]⟩,
   ⟨["changeswhencasemapped", "cwcm"],
     ["cNZFZcFAJWAbEAcLAdFAbBBNBBAADdOARFbAABAAABCBADAEBAABBAGABAABCFEAJBgJAbPDBBCCAAFAACAAATAb",
      "UCbGAEAfCHgJAbLJbMefFbLAAEABbQBCzVdHBFdfTKEbQBChCACAPAeIfZBAAeNBFBbLBFBHAAAAAAAbEBcAAGAA",
      "CCAGCDBFDMECAGlKACBFAbAAQbFCBbfKbZcrTeIABABGdXGDCBLbLAAEAbtwBbTRbBfDNBcJIOCCBEAYAbSXBbhB",
      "AbBdBbeaHGLEbnSZFZbtSdBdRbJDbJeLKAOAGABAKAOAGABcoObYMbYdOVJVefHcLbgiPcLbFYBYbugXcP"]⟩,
   ⟨["changeswhenlowercased", "cwl"],
     ["cNZdWWAGbGAAAAAAAAAAAAAAAAAAAAAAAAAAAAAAAAAAAAAAAAAAAAAAAAAAAAAAABAAAAAAAAAAAAAAABAAAAAA",
      "AAAAAAAAAAAAAAAAAAAAAAAAAAAAAAAAAAAAAAAABAAAACBAAABACBDABACCBABAAAAABAABAABACAAABCAGBABA",
      "BAAAAAAAAAAAAAAAABAAAAAAAAAAAAAAAAABBAAACAAAAAAAAAAAAAAAAAAAAAAAAAAAAAAAAAAAAAAAAAAAAAAA",
      "AAAAAAAAAAAGBABBAADAAAAAAAAlCAAACAHAFAACAAABAQAIbIAHAAAAAAAAAAAAAAAAAAAAAAAEABAABBbYbVAA",
      "AAAAAAAAAAAAAAAAAAAAAAAAAAAAAAAIAAAAAAAAAAAAAAAAAAAAAAAAAAAAAAAAAAAAAAAAAAAAAAAAAAAAAABA",
      "AAAAAAAAAAABAAAAAAAAAAAAAAAAAAAAAAAAAAAAAAAAAAAAAAAAAAAAAAAAAAAAAAAAAAAAAAAAAAAAAAAAAAAA",
      "AAAAAAAAAAAAAAAAAAABbLehCbLAAEAbbTdHdgKAFbQBCmHAAAAAAAAAAAAAAAAAAAAAAAAAAAAAAAAAAAAAAAAA",
      "AAAAAAAAAAAAAAAAAAAAAAAAAAAAAAAAAAAAAAAAAAAAAAAAAAAAAAAAAAAAAAAAAAAAAAAAAAAAAAAAAAAAAAAA",
      "AAAAAAAAAAAAAAAAAAAAIAAAAAAAAAAAAAAAAAAAAAAAAAAAAAAAAAAAAAAAAAAAAAAAAAAAAAAAAAAAAAAAAAAA",
      "AAAAAAAAAAAAAAAAAAAAAAAAAAAAAAIHHFJHHHHFKAAAAAAAHHXHHHHHHEKEKDLEKElKACBFAbSPSAbfLZcsTbVb",
      "VAACBAAAAAADAABAHCAAAAAAAAAAAAAAAAAAAAAAAAAAAAAAAAAAAAAAAAAAAAAAAAAAAAAAAAAAAAAAAAAAAAAA",
      "AAAAAAAAAAAAAAAAAAAAAAAAAAAAHAAADAbtyIAAAAAAAAAAAAAAAAAAAAAAAAAAAAAAAAAAAAAAAAAAAAASAAAA",
      "AAAAAAAAAAAAAAAAAAAAAAAfEAAAAAAAAAAAAACAAAAAAAAAAAAAAAAAAAAAAAAAAAAAAAAAAAAAAAAAAAAAAAAA",
      "AAAAAAAAAAAAJAAAABAAAAAAAADAAABAAACAAAAAAAAAAAAAAAAAAAAEAEAAAAAAAAAAAAAAADAAABAAAAAAAAAA",
      "AAAAAAXAbhaGZbuYbNfFbJfZKAOAGABcqBbYgAVegNbFbgjVbFcLYbuhYbH"]⟩,
   ⟨["changeswhennfkccasefolded", "cwkcf"],
     ["cNZcQAGAAABAAABDBCACAWAHbFAAAAAAAAAAAAAAAAAAAAAAAAAAAAAAAAAAAAAAAAAAAAAAAAAACAABAAAAAACA",
      "AAAAAABAAAAAAAAAAAAAAAAAAAAAAAAAAAAAAAAAAAAAAAAAAAAABAAAAAAABAAABACBDABACCBABAAAAABAABAA",
      "BACAAABCAGJAAAAAAAAAAAAAABAAAAAAAAAAAAAAAAABDACAAAAAAAAAAAAAAAAAAAAAAAAAAAAAAAAAAAAAAAAA",
      "AAAAAAAAAAAAAAAAAGBABBAADAAAAAAAAdSIbEFBEdMBACIAbFAAAAAAACACBDGAAABAQAIVALHAAAAAAAAAAAAA",
      "AAAAAAAAAAAACABAAABBbYbVAAAAAAAAAAAAAAAAAAAAAAAAAAAAAAAAAIAAAAAAAAAAAAAAAAAAAAAAAAAAAAAA",
      "AAAAAAAAAAAAAAAAAAAAAAAABAAAAAAAAAAAABAAAAAAAAAAAAAAAAAAAAAAAAAAAAAAAAAAAAAAAAAAAAAAAAAA",
      "AAAAAAAAAAAAAAAAAAAAAAAAAAAAAAAAAAAAAAAAAAAAABbLbVAfRAdJDbcGHeTBAAdEABAbHCBAjSBbbWAeWAbN",
      "BbTAcBAIADADADALAIAAEGAQAIADADADALAiVbLAAEAbTAdTBzMFbkNBdGEbrRJFbQBCeDCAKARAbBMAbHbKcLAA",
      "AAAAAAAAAAAAAAAAAAAAAAAAAAAAAAAAAAAAAAAAAAAAAAAAAAAAAAAAAAAAAAAAAAAAAAAAAAAAAAAAAAAAAAAA",
      "AAAAAAAAAAAAAAAAAAAAAAAAAAAAAAAAAAAAAAAAAAAAAAAAAAAAAAAAAAAEBBAAAAAAAAAAAAAAAAAAAAAAAAAA",
      "AAAAAAAAAAAAAAAAAAAAAAAAAAAAAAAAAAAAAAAAAAAAAAAAAAAAAAAAAAAAAAAAAAAAAAAIHHFJHHHHFKAAAAAA",
      "AHHAAAAAAAAAAAAAABbVBCBNBICADDACCADHBCBHAPAAEALCCFCBABDAAAHCMAGSBbAAMKAdIDACAKABBEBCAAAA",
      "AAADAKAFDEFbVCAEAgFBABjNBlWfIbyMAdYCdWAlEbVbVAACBAAAAAADAABAFEAAAAAAAAAAAAAAAAAAAAAAAAAA",
      "AAAAAAAAAAAAAAAAAAAAAAAAAAAAAAAAAAAAAAAAAAAAAAAAAAAAAAAAAAAAAAAAAAAAAAAAHAAADAeTAlQAdEAL",
      "iFbPAcAAACdRBBAdQAbWdPCNdRbEAbNHbUAoTbrgXAAAAAAAAAAAAAAAAAAAAAAAAAAAAAAAAAAAAAAAAAAAAASA",
      "AAAAAAAAAAAAAAAAAAAAAAAAAAABfBAAAAAAAAAAAAACAAAAAAAAAAAAAAAAAAAAAAAAAAAAAAAAAAAAAAAAAAAA",
      "AAAAAAAAAAAAAAAAAAAHAAAABAAAAAAAADAAABAAACAAAAAAAAAAAAAAAAAAAAEAEAAAAAAAAAAAAAAADAAABAAA",
      "AAAAAAAAAAAAATEBBbhHDIAFdBbdgPkJBAAABJAAAABBCcPBeBbLGLEEAAXAEAAABABAeDbGnYRcLBcBbNMCZVUB",
      "LASADDCAAAfEBAAhHCFBFBFBCCGAGAIbnQbNfFbJfZKAOAGABsWEAbPAIbuYbYgAVegNbFbgjVbFcLYbdnADgdLb",
      "JbrFGNHcLFwCdGAcSABBABBBDALAAAGAcMADBHAGAbBADAEAACGAnBBlFBbXdcPcJdgJbHbvXDAbAABAABAAJADA",
      "AAAFADAAAAAACABAABAAAAAAAAAABAABDAGADADAAAJAQECAEAQwHKEbEAbFZCbIAeGCMbRDIGBdqRJdrlLuVbpc",
      "qRgbN"]⟩,
   ⟨["changeswhentitlecased", "cwt"],
     ["dTZcFAbOXAHAAAAAAAAAAAAAAAAAAAAAAAAAAAAAAAAAAAAAAAAAAAAAAAAAAAAAAAABAAAAAAAAAAAAAABAAAAA",
      "AAAAAAAAAAAAAAAAAAAAAAAAAAAAAAAAAAAAAAAAABAAAACBAAABACAEABACCBABAAAAABADABACAAABACAAADAA",
      "BABAAAAAAAAAAAAAAAAABAAAAAAAAAAAAAAAAACAAAACAAAAAAAAAAAAAAAAAAAAAAAAAAAAAAAAAAAAAAACAAAA",
      "AAAAAAAAAAAAAHABBAADAAAAAAAAFABAAABCBADAEBAABBAGABAABCFEAJBgJAbQAAACACCRAbAbIABCCAAAAAAA",
      "AAAAAAAAAAAAAAAAEAABABAbZbVAAAAAAAAAAAAAAAAAAAAAAAAAAAAAAAAAAIAAAAAAAAAAAAAAAAAAAAAAAAAA",
      "AAAAAAAAAAAAAAAAAAAAAAAAAAABAAAAAAAAAAAABAAAAAAAAAAAAAAAAAAAAAAAAAAAAAAAAAAAAAAAAAAAAAAA",
      "AAAAAAAAAAAAAAAAAAAAAAAAAAAAAAAAAAAAAAAAAAAAAAAAAbWbMfmDFdfTIAAjDACAPAeJAAAAAAAAAAAAAAAA",
      "AAAAAAAAAAAAAAAAAAAAAAAAAAAAAAAAAAAAAAAAAAAAAAAAAAAAAAAAAAAAAAAAAAAAAAAAAAAAAAAAAAAAAAAA",
      "AAAAAAAAAAAAAAAAAAAAAAAAAAAAAAAAAAAAAAAAAAAAGEAAAAAAAAAAAAAAAAAAAAAAAAAAAAAAAAAAAAAAAAAA",
      "AAAAAAAAAAAAAAAAAAAAAAAAAAAAAAAAAAAAAAAAAAAAAAAAAAAAIHFJHHHHFJHHHHNBHHHHHHEABFACCABHDBBH",
      "HJCABnDAbGPDAbgKZctPbVAACBAAAAAAFABAJAAAAAAAAAAAAAAAAAAAAAAAAAAAAAAAAAAAAAAAAAAAAAAAAAAA",
      "AAAAAAAAAAAAAAAAAAAAAAAAAAAAAAAAAAAAAAAAAAAAAAAAHAAADALbLAAEAbtwCAAAAAAAAAAAAAAAAAAAAAAA",
      "AAAAAAAAAAAAAAAAAAAAAASAAAAAAAAAAAAAAAAAAAAAAAAAAAfEAAAAAAAAAAAAACAAAAAAAAAAAAAAAAAAAAAA",
      "AAAAAAAAAAAAAAAAAAAAAAAAAAAAAAAAAAAAAAAJAAABAAAAAAAAADADAABBAAAAAAAAAAAAAAAAAAAKAAAAAAAA",
      "AAAAAAADAAABAAAAAAAAAAAAAAAZAbhBAbBdBbeaHGLEboYZbvGbNfFbJfYKAOAGABcrAbYeUVegNbFbgjVbFcGY",
      "buiFbH"]⟩,
   ⟨["changeswhenuppercased", "cwu"],
     ["dTZcFAbOXAHAAAAAAAAAAAAAAAAAAAAAAAAAAAAAAAAAAAAAAAAAAAAAAAAAAAAAAAABAAAAAAAAAAAAAABAAAAA",
      "AAAAAAAAAAAAAAAAAAAAAAAAAAAAAAAAAAAAAAAAABAAAACBAAABACAEABACCBABAAAAABADABACAAABACAAAEBA",
      "BABAAAAAAAAAAAAAAABAAAAAAAAAAAAAAAAABABAACAAAAAAAAAAAAAAAAAAAAAAAAAAAAAAAAAAAAAAACAAAAAA",
      "AAAAAAAAAAAHABBAADAAAAAAAAFABAAABCBADAEBAABBAGABAABCFEAJBgJAbQAAACACCRAbAbIABCCAAAAAAAAA",
      "AAAAAAAAAAAAAAEAABABAbZbVAAAAAAAAAAAAAAAAAAAAAAAAAAAAAAAAAAIAAAAAAAAAAAAAAAAAAAAAAAAAAAA",
      "AAAAAAAAAAAAAAAAAAAAAAAAABAAAAAAAAAAAABAAAAAAAAAAAAAAAAAAAAAAAAAAAAAAAAAAAAAAAAAAAAAAAAA",
      "AAAAAAAAAAAAAAAAAAAAAAAAAAAAAAAAAAAAAAAAAAAAAAAbWbMehBbQBCbdFFdfTIAAjDACAPAeJAAAAAAAAAAA",
      "AAAAAAAAAAAAAAAAAAAAAAAAAAAAAAAAAAAAAAAAAAAAAAAAAAAAAAAAAAAAAAAAAAAAAAAAAAAAAAAAAAAAAAAA",
      "AAAAAAAAAAAAAAAAAAAAAAAAAAAAAAAAAAAAAAAAAAAAAAAAAGEAAAAAAAAAAAAAAAAAAAAAAAAAAAAAAAAAAAAA",
      "AAAAAAAAAAAAAAAAAAAAAAAAAAAAAAAAAAAAAAAAAAAAAAAAAAAAAAAAAIHFJHHHHFJHHHHNBcAABDAAACCABDAC",
      "DBBHHJCABDAmYAbGPDAbgKZctPbVAACBAAAAAAFABAJAAAAAAAAAAAAAAAAAAAAAAAAAAAAAAAAAAAAAAAAAAAAA",
      "AAAAAAAAAAAAAAAAAAAAAAAAAAAAAAAAAAAAAAAAAAAAAAAAAAAAAAHAAADALbLAAEAbtwCAAAAAAAAAAAAAAAAA",
      "AAAAAAAAAAAAAAAAAAAAAAAAAAAASAAAAAAAAAAAAAAAAAAAAAAAAAAAfEAAAAAAAAAAAAACAAAAAAAAAAAAAAAA",
      "AAAAAAAAAAAAAAAAAAAAAAAAAAAAAAAAAAAAAAAAAAAAAJAAABAAAAAAAAADADAABBAAAAAAAAAAAAAAAAAAAKAA",
      "AAAAAAAAAAAAADAAABAAAAAAAAAAAAAAAZAbhBAbBdBbeaHGLEboYZbvGbNfFbJfYKAOAGABcrAbYeUVegNbFbgj",
      "VbFcGYbuiFbH"]⟩,
   ⟨["dash"], ["bTAcaTAbYAfkIAbnOAdbCFcIAbMAOAoZAeoHABAbEBDAbBArDASAeGAczvZBbKAJAgMAflNAmFA"]⟩,
   ⟨["defaultignorablecodepoint", "di"],
     ["gRAzWAbbNAegVBckGBdGEdaOEZEbWPgkXAczmOPjEAgDAdAIctlMDhwWHbtkzKgbN"]⟩,
   ⟨["deprecated", "dep"], ["mRAbyUAdkSAAAdcIBdiIFbaUBbzryJA"]⟩,
   ⟨["diacritic", "dia"],
     ["dQAAAcSAFADABBtIgCAHEFQBDAIBjSEiAAcCbSAAABABAAfAHDBfDBDBCCcObAdMKcFKbHBeVHbOJPbBcIAPACDb",
      "BAcVAPAeFAPAeFAPAbUCcHAPAGAeOAeFAPAeFAPAeEBPAeTAeGALFAAeCAMEcWBbAAAAAADBcNCABcJAeHAABbNB",
      "DEYGAAJBbbCCbkLBbDAfRKIAnIClFATHBAbVOBKCOBLcTAOAbLIcBBcFAKBcNBcLFdDYDAFABCbXcKbVbJELbKKr",
      "CAACKCMCMCMBexJCmEAtLFeADdQAbsmJALBAAbBBdDBNbHdXCdXAFBLAbKAfUAbARcEDbJAdQALAbJAfSCcMDbYA",
      "dVEICeXBbdzRAbdOPkJAAAbUAbSBcOAbdJAbtMFAbPAIyMCDAgIBvYFbLAZEpFABCcRKbWDhJAbOAcTBePBcJAcX",
      "AICdZBgVBdBBPAXGCEdKCABMBdQACAeSBjQBeVAeNBeKAkIBjXBDAfZAdEARAdCAqEAjXAABdCAcMAnUBWAhxZOq",
      "zOAdrZEcGGvRBuZQdBBygBDAGABltGbTBWuXCCFHHBGbDDfmVcJhLGoKAcIDbdLBbcHGeECAC"]⟩,
   ⟨["emoji"],
     ["bJAFAEJeGADAlyQALAiHAVAdLFOBoCBLAgJAYKDChQAiWBJAIAcFDAEIABABBBADABAABBACACBHCEAAAELKBBAA",
      "BAARABBRFAAABCBEABBDBKBEBBAEBAAABTBEFADBADABABFAABAAAAAFACAFAJBOABADAAADCAAKBbVCIANANAoH",
      "BrUCSBbYADAbvTALAxCAAAgmrPAhTAgDBLBNABJcWZABWATABIUBgRbHBeHBBACBdEBCAkCAcKKFAXGBBHLABDBA",
      "DBMBBAHBIAECLCHCBAAADAFACAFdHbVcREHBDCJCAABCABJiSLDAkWbUAJAhCeHMCKCcEAADPBLDJ"]⟩,
   ⟨["emojicomponent", "ecomp"], ["bJAFAEJmbIAiEAdftQAdoiVZtMEcdZDbsvuPdR"]⟩,
   ⟨["emojimodifier", "emod"], ["hhiXE"]⟩,
   ⟨["emojimodifierbase", "ebase"],
     ["olHAiKAPDgsjUAcHCBABCeMBBKUSCADCACGAAAXAhSBDAUADBgRCCEdEAPCIAKAwCABAHHFAIJBCcDAcIBABAAQC",
      "AMiUCbPI"]⟩,
   ⟨["emojipresentation", "epres"],
     ["nhQBhWDCABAuABUBbXLbQASAMAHBQBEBHAEAUAGBAADABAGADBbBAbIAAADCAAcICXANAbhABbYADAgplDAhTAhH",
      "ABJcWZAAXATABEACUBgRbGLIAcRAVLbQDELQCACcSAAAhEBcKMDAXRAZBMAdHdGbVcRFACCBDCDKBGIiSLDAkWbU",
      "AJAhCeHMCKCcEAADPBLDJ"]⟩,
   ⟨["extendedpictographic", "extpict"],
     ["gNADAlyQALAiHAVAdLFOBoCBLAdQAcRAYKDChQAiWBJAIAcFDAFALAeJJeNBKAAAAFACAFAJBOABADAAADCAAKEb",
      "SCIANANAoHBrUCSBbYADAbvTALAxCAAAgmrLjVMCbEAcHFLBNABJRcEbAOJATABIADIqREmFHkFbVeXeLLdGbQLD",
      "cDHJFbNHbDdDLbUAJAqYjVbnH"]⟩,
   ⟨["extender", "ext"],
     ["hBAuPBbhTAqYAyFAfGAdKAbcXAeWAdnEAcDAxMApHAcPAhkIAbQEdYBdOCbqbTAcgRAbkZAVAfGAeDAUBbfzUAdb",
      "JBcfAAbAADAbvAAlGAeLBtDCbvIAbfZAbdiDBbtJBAANBbqxJBbuEAbgTC"]⟩,
   ⟨["graphemebase", "grbase"],
     ["bGdQbGMAwVeHHBFDGAAATAiPGgJAbLBbXBCbTAAABABAIbADFQJKAAbTUPAdWHAFBBADbFBAAbDbCdKKANbQIGCX",
      "DAIACAGOAYEAAKEbFPbPcEcCAAADHDACGJBbCABAHBBBVAGAACDCAABFBBBAAMBACDXEAAFDBBVAGABABABDCXDA",
      "AGJBCAALAAIACAVAGABAECDHAABCAOBDLGAHBAHBBBVAGABAECABAFBBBOBACDRKAAFCCADCBAAABCBCCCLEAABC",
      "CACCAUUFCAHACAWAPCACDSCABBBDJGJAKACAWAJAECBBAABWCABDJACNKACAbOBAABECACABDCAJDZBBARCXAIAA",
      "BGIBFGGJBCLbVABKHHMbKBAAAEAXAAAJABIABEAAIJBDbFXBbAAAAAANAbJRAEABEbWHAFAMbKbSDAFABBBYBDCP",
      "DMABBFAOAbNAAEABoMADBGAAADBbOADBbGADBGAAADBOAcEADBcOEbCCZFdHBFBzSCdKGRMSCBIRNMACObZBAGHA",
      "BKICJFJFKEJFdKGEBbHAAEcRJbEDDBCDBAFGACbPBEKbRDZFKCcEBBCcDAAIAABHFMJFJFNdHbVJDCHAbCILBbFD",
      "BFcDAABCAAMbVHBEOCcJEbQBKKAMAGDAFACBAEhJcLkRBFBbLBFBHAAAAAAAbEBcAAOANBFASBCAIAKEXGbWPBBb",
      "AAMCbHcJfJDzPVKUcrRBoMCBEbSAAEABcDGBOWIGAGAGAGAGAGAGAGbGdPbHZAdKLiFZcFFPAdHDdWEbQAdPAdHI",
      "bVAbriQCcCInJTbUDAJbFBdBBFHiMTQACADAYBEDJFcDHcPJLXMAbLHYKALbDFbVABDBBBAMAKDGAYAbOFBBBKCA",
      "HAABJBbFAbYAACBBEBAAAXQBHKFBFBFIGAGAcHDeMABADCJFqnRLWDbWmnBoBBeBbLGLEEAAXAEAAABABAyZbFPP",
      "JVbIASADDEAfEDgABbECFBFBFBCCGAGMBBLAZASABAOBNbHeSECDbSCdJAMCAbUbSfAbCCbWPbADbJIbDEbLJbDA",
      "bKDNbPgBBJFbJDbJDbNHbZKLAOAGABAKAOAGABCbZLlYIVJHXFAbPAIcQFBAAbRABCABWAcTHIbVSABEbGCbAEbA",
      "bLcDDTBbUODACAbCJIGIGcLbFbKFLIcBCbCBbAEZGDLGdBcUcCbYMbYGbPLJFbLHXHBhZbEAbPCABBPFHIbMbNHV",
      "KIVRDDbLbBTWIAAcBOGDbDABBALbWDBBBADNYGJIbJEAIRHbIACKbZIAAHDBAPATKRAbBCBDFABcKGAAADAOAKFb",
      "UACMJHBAHBBBVAGABAECAAAADBBBBCALGbBJAABAAbLAAABOAABCAACABbMcDHBCAAUAAACbDbVABFAABAABABDH",
      "JgJbUABFDBABbAbJbYHBAABDKJFMSbQAAABHBFJFTbBbACAABDAIWhCbUIABAdVdELHBABHABAXAEABFDACIJcRH",
      "BbPHDADbAAJbNFBDHIAFBCbTMABIMcUGJdIACAAAdJbHNJFIAbLNAAFJbCCbFYAGABAcWGABAbLUAIJFFABAbKDB",
      "AAAAGJFbRDJjLSBDIOAbJHBCWdHAObXMbjMdXeGAEKhNdxJdUMbpFQFYfxQEwKkdCbDLCCJcoRvWGbEAJDdCAJFb",
      "DGAJbVGOJJAGAUESqPcFhPdMEYBYbRcWEcDKMcLDNEIkxXbObFdSeKmwQDAGABAlEOAbCCBANDHpFdkTeCEMCIGJ",
      "BABAfvJjSCqTFWOQdQeLcHjLJbMBcHECVBGbDDcIUcNCAeRTLTLdIIYfEdGAcSABBABBBDALAAAGAcMADBHAGAbB",
      "ADAEAACGAnBBlFBvPcCDbXHANAGbrVbEFFkAcJfPbSJGBJDBmHbDRbRDJEArVbBDJiFbDBKDAhJbEACABAGBEIBi",
      "PGADABAOAhOBIbVcPGADJDBbeEcPcXcIhLDAbAABAABAAJADAAAAFADAAAAAACABAABAAAAAAAAAABAABDAGADAD",
      "AAAJAQECAEAQbZBkJbRDdVLOBOAOAbKJgRcDbCMbRDIGBNFfXblWCQCMCiJFLDAOLDcDHJFbNHbDBLDBNIbMnFHN",
      "BMCKCcEAADPBLDJGfQAdYbnOclfBbFgmNBioBBlbKOxXdqVuVcfXhhYEmoN"]⟩,
   ⟨["graphemeextend", "grext"], graphemeExtendPieces⟩,
   ⟨["graphemelink", "grlink"],
     ["dnPAeWAeWAeWAeWAeWAeWAeWAeEBPAeTAeGAeWAhSAgXBcpKBbDAgAAzCAiSAdWBcRBgqSAbukJAbKAfUAfLAeDA",
      "lWAjLAbjsQAchHAbOANAcEAeQBfIAeLAgXAdTAeXCeIAeWAjRAeWAeNAeLAkIAjYBgEAdEARAdCAqEAjZBdCAqIB",
      "yzBA"]⟩,
   ⟨["hexdigit", "hex"], ["bWJGFZFdslKJGFZF"]⟩,
   ⟨["hyphen"], ["bTAeWAbvVAgzYAdbCBfiAAbcKAczuKAgMAdIA"]⟩,
   ⟨["idcompatmathcontinue"], ["gWBEAmaFACKAOoGADAVAgjjDAYAbEAYAbEAYAbEAYAbEAYA"]⟩,
   ⟨["idcompatmathstart"], ["mwWADAVAgjjDAYAbEAYAbEAYAbEAYAbEAYA"]⟩,
   ⟨["idcontinue", "idc"],
     ["bWJGZDAAZbUAJAAABAEWAbEArPDLNEGAAAQeMABBDAAFEAAATAdEAfIAEBgJAbLBAFbOHbSAAABABAAHbADDbCKE",
      "cVDdXAHBJASBAPcGBdWNcBDABABbTRbBDKEXAGGcWAeYBJASAHBBBVAGAACDBIBBBDHADBAEBLJAAABCAFDBBVAG",
      "ABABABBAAEDBBCCAGDAAGPKCAIACAVAGABAEBJACACBAODBJIGACAHBBBVAGABAEBIBBBCGCDBAEBJAAPBAFCCAD",
      "CBAAABCBCCCLDECCADBAFANJPMACAWAPBIACADGBACABBDBJPDAHACAWAJAEBIACADGBECADBJACLMACAbYACAEE",
      "DGEBJJFACARCXAIAABGCADFAAAHFJBBMcFEOAJbMBAAAEAXAAAWBEAAAGAJBDbFAWBFJKAAAAADJAbJDTARAbJIA",
      "cEcVFcZBbLAAEABbQAmUADBGAAADBbOADBbGADBGAAADBOAcEADBcOBCIINPPdHBFCxVBQAZEcWCKGVIVKTLMACA",
      "BLdFCADBBJbGCAKFdKGbQEcRJbEALDLJbNBEKbRDZFKbKbBDcKAbCBKFJMAHNAbEBLTcYCJQILeLLcDHJCbWBKEb",
      "QBCPCAbMEuNBFBbLBFBHAAAAAAAbEBcAAGAACCAGCDBFDMECAGOBbWBSAbBAMAPMbYMDACLQADABJAABFFAAAAAA",
      "PBDEEDAQbOdzAiUFILbLAAEABcDGAOXIGAGAGAGAGAGAGAGAbFtWCYOAEBEDdHBGAdQEbQAdPQbFbVPtRjtNcLbg",
      "uEcObTBkICbBTbVDJAeKbKIBdYBdDTcCDASbZLcRJJFXCAAbWBbJLbCCcMNKFbEAcCINBJFWCcUXCBPBEJFBFBFI",
      "GAGAbQANFeSABBJFqnRLWDbWmnBoBBeBbLGLEELAMAEAAABABAeDbGnYRcLBcBbNLDPPPCBXCbFEAfESJGZDAAZJ",
      "dLCFBFBFBCbILAZASABAOBNbHeScQcAfFAeZbCCbWOAbEbFMbDEbQEbDBbJDHAEbPgBBJFbJDbJDbNHbZLKAOAGA",
      "BAKAOAGABCbZLlYIVJHXFAbPAIcQFBAAbRABCABWJWIbEcMSABJVJZFZbLcDFBcLDABEHACAbCBCDAbFbCCbCbIH",
      "AbDYcBJVJSMReFcUcCbYMbYMbNHJFbLCEAWjPbPABCBPFbXbIJAHbGbEVbPUbAWIcSbEPIcHGAMYGJFcAAJDDHbJ",
      "BAIcQDDAMAAbIRAbKFDcJGAAADAOAJGcGEJFDAHBBBVAGABAEAJBBBCBAFAEGBGCEKJAABAAbLAJAABAADAHMBbC",
      "cWEJDDbDcRAAHJgJcBBIWFbHcMCAKJbLcEGJFTbBbABODJFGhCcGdWcVUHBABHABAbDABBILJcRHBbTBHABbAcKH",
      "AHcVCARcUdYHdJbGOJFIAbSAIOJXbDBVANcUGABAbRCAABAIHJFFABAbKABAFGJFbRDJjLWIQAbOCEMKdGAdAbjL",
      "dXeGQhNdxJdSObpFPVJfxQEwKkdCcFcoRvWGbEAJFdAAJFbDBEKcCIDLJIUESqPbSCJhPcLbFYBYbRcWDcEGQcLB",
      "ABKGIkxXbObFdSeKmwQDAGABAlEOAbCCBANDHpFdkTeCEMCIGJCBgeQJtXbTBWuVECFHHBGbDDfRCrAdGAcSABBA",
      "BBBDALAAAGAcMADBHAGAbBADAEAACGAnBBYAYAbEAYAbEAYAbEAYAbEAYAHBbXtRcCDbXHANAVEAObqLbEFFiEGA",
      "QBGABAEEcJbGAeHbSCNBJDAmIbEQcFsBbPiFbQhObEAVHBiPGADABAOAhOKGbOcXDJbtTDAbAABAABAAJADAAAAF",
      "ADAAAAAACABAABAAAAAAAAAABAABDAGADADAAAJAQECAEAQezZJbnPclfBbFgmNBioBBlbKOxXdqVuVcfXhhYEmo",
      "NbogxXjF"]⟩,
   ⟨["idstart", "ids"],
     ["cNZFZbUAJADAEWAbEArPDLNEGAAAeYEABBDAAFAACAAATAdEAfIHgJAbLBAFbOcSbADDbSbQbIBAdUAAOBGBJCBA",
      "PAAbDbCdKKAXbGIBDAEVDAIACAWYGKEXAGPbPcFcBCARAGJOPDHBBBVAGAACDCAPAMBACNBJAHFDBBVAGABABABb",
      "EDAASCPIACAVAGABAECARAOBWAKHBBBVAGABAECAbDBACOAQAAFCCADCBAAABCBCCCLVAbZHACAWAPCAZCABBBbD",
      "ADHACAWAJAECAbDCABOBQIACAbOBAPAECHCXFERCXAIAABGcFbVABLGcFBAAAEAXAAAJABIABEAAUDbFAcKHAbJb",
      "AEeKbQTAPFDDCACBGCDMLAQbLAAEABbQAmUADBGAAADBbOADBbGADBGAAADBOAcEADBcObKPPdHBFCxVBQAZEcWC",
      "KGRMSNRNMACObZbIADAcOdKGbOAAEcRJbEbWbDBEKbRDZcBWIcAdDAdObUQHcBbDMBJbRZbJbOCJbJBKEbQBCbOD",
      "AFABCAEhJcLkRBFBbLBFBHAAAAAAAbEBcAAGAACCAGCDBFDMECAGeLAMAPMdWADABJAABFFAAAAAAPBDEEDAQbOd",
      "zAiUFDCBLbLAAEABcDGAPWIGAGAGAGAGAGAGAGvDCYIGEBEDdHDEAdLADEbQAdPQbFbVPtRjtNcLbguEcObTBkIC",
      "PJBTbUPbEBdBbMIBdYBdDTQACADAWbCbZNbXcJFCAABKbBJWYbCGbUbBAPEAJJEAbOWCAHTWCACbXAACBBEBAAAX",
      "CBKGCLFBFBFIGAGAbQANFeKbCqnRLWDbWmnBoBBeBbLGLEEAAJAMAEAAABABAeDbGnYRcLBcBbNLeLEAfEbJZFZK",
      "dKCFBFBFBCbILAZASABAOBNbHeScQcAkGbCCbWbUbFMbDEbLJbDBbJDHAEbPgBRbJDbJDbNHbZLKAOAGABAKAOAG",
      "ABCbZLlYIVJHXFAbPAIcQFBAAbRABCABWJWIbEcMSABJVJZFZbLcDFBcLAODACAbCbPbCCbCbIHAbBbAcBJVJSMR",
      "eFcUcCbYMbYMbJbLbBIWjPbPFBPFcDbCJAHVbPRbTUbAWLcAcEBBAMbSbFYZbJbCABAHbICALbVNDUAAAbIRAYSB",
      "cKGAAADAOAJGbUbLHBBBVAGABAECARALEbDJAABAAbLAAYAAAbRcARDTCbDbVTBAAhBbUbODbJbVTAcGbQMAcSbA",
      "bKGhCbReLcLbEHBABHABAXOAAAdPHBbMPAAAbBAJbNGAUAKbTSARcUhQbGbEIAbKQAbWbDeHGABAbLUAYFABAbFN",
      "AWbRjZSOAAMAbHeTAdAbjLdXeGQhNdxJdSObpFQFYfxQEwKkdCbDcpTvWGbEQdAQbDRbVPDbEUESqPbSiCcLbFYB",
      "YbRcWEAcNMcLBAANEIkxXbObFdSeKmwQDAGABAlEOAbCCBANDHpFdkTeCEMCIGJiwJdGAcSABBABBBDALAAAGAcM",
      "ADBHAGAbBADAEAACGAnBBYAYAbEAYAbEAYAbEAYAbEAYAHcsXbEFFkAcJfPbSJGPAmIbDRbRsPbBiTbDBAhYbEAC",
      "ABAGBEIBiPGADABAOAhOcGcPGAbuHDAbAABAABAAJADAAAAFADAAAAAACABAABAAAAAAAAAABAABDAGADADAAAJA",
      "QECAEAQgnZclfBbFgmNBioBBlbKOxXdqVuVcfXhhYEmoN"]⟩,
   ⟨["idsbinaryoperator", "idsb"], ["seABBJtCA"]⟩,
   ⟨["idstrinaryoperator", "idst"], ["seCB"]⟩,
   ⟨["idsunaryoperator", "idsu"], ["seOB"]⟩,
   ⟨["ideographic", "ideo"],
     ["seWBYINCblCjtNcLbfbJbhsHoBBeBbsiJAMEIkxXbObFdSeKnlKpFbdeHclfBbFgmNBioBBlbKOxXdqVuVcfXhhY",
      "EmoN"]⟩,
   ⟨["joincontrol", "joinc"], ["mdOB"]⟩,
   ⟨["logicalorderexception", "loe"], ["fkIEeSEedRCBAccxLBBAAB"]⟩,
   ⟨["lowercase", "lower"],
     ["dTZbUAJADAbJXAHAAAAAAAAAAAAAAAAAAAAAAAAAAAAAAAAAAAAAAAAAAAAAAAAAAAAAAABAAAAAAAAAAAAAAABA",
      "AAAAAAAAAAAAAAAAAAAAAAAAAAAAAAAAAAAAAAAAAAAAABAAAACBAAABACBDABACCBABAAAAABAABAABACAAABBB",
      "CFABABAAAAAAAAAAAAAAAABAAAAAAAAAAAAAAAAABBAAACAAAAAAAAAAAAAAAAAAAAAAAAAAAAAAAAAAAAAAAAAA",
      "AAAAAAAAAAAAAAAAGBABBAADAAAAAAAAcQBbIGBbDEdRAbQAAACABDRAbAbIABCCAAAAAAAAAAAAAAAAAAAAAAAE",
      "AABABBbYbVAAAAAAAAAAAAAAAAAAAAAAAAAAAAAAAAAAIAAAAAAAAAAAAAAAAAAAAAAAAAAAAAAAAAAAAAAAAAAA",
      "AAAAAAAAAABAAAAAAAAAAAABAAAAAAAAAAAAAAAAAAAAAAAAAAAAAAAAAAAAAAAAAAAAAAAAAAAAAAAAAAAAAAAA",
      "AAAAAAAAAAAAAAAAAAAAAAAAAAAAAAAAbVbOehAbQADbdFFdfTIAAeMhJcMAAAAAAAAAAAAAAAAAAAAAAAAAAAAA",
      "AAAAAAAAAAAAAAAAAAAAAAAAAAAAAAAAAAAAAAAAAAAAAAAAAAAAAAAAAAAAAAAAAAAAAAAAAAAAAAAAAAAAAAAA",
      "AAAAAAAAAAAAAAAAAAAAAAAAAAAAAAAIAAAAAAAAAAAAAAAAAAAAAAAAAAAAAAAAAAAAAAAAAAAAAAAAAAAAAAAA",
      "AAAAAAAAAAAAAAAAAAAAAAAAAAAAAAAAAAAAAAAAAIHFJHHHHFJHHHHNBHHHHHHEABFACCABHDBBHHJCABeQAMAP",
      "MeEACBCAbAADADABBHDDAbGPDAbgKZctPbVAACBAAAAAADAABAHCAAAAAAAAAAAAAAAAAAAAAAAAAAAAAAAAAAAA",
      "AAAAAAAAAAAAAAAAAAAAAAAAAAAAAAAAAAAAAAAAAAAAAAAAAAAAAAAAAAAAAABGAAADALbLAAEAbtwCAAAAAAAA",
      "AAAAAAAAAAAAAAAAAAAAAAAAAAAAAAAAAAAAASAAAAAAAAAAAAAAAAAAAAAAAAAACfCAAAAAAAAAAAACAAAAAAAA",
      "AAAAAAAAAAAAAAAAAAAAAAAAAAAAAAAAAAAAAAAAAAAAAAAAAAAAAJAAAABAAAAAAAAADAAABAACAAAAAAAAAAAA",
      "AAAAAAAAEAEAAAAAAAAAAAAAAADAAABAAAAAAAAAAAAAAAUDAAACbfObQANFdBbeaHGLEboYZbvGbNfFbJfYKAOA",
      "GABrIABCAbPAIbxKbYeUVegNbFbgjVbFcGYbmjDZZGARZZZDAAAGAKZZZZZZZZZZZZZZZZZbBbBYAFZYAFZYAFZY",
      "AFZYAFAAcsXJATFFkAcJdhRbH"]⟩,
   ⟨["math"],
     ["bRAPCbEAbCAAAbSADAbKAbEAbbZCBAZBBCuGCjwMAbACKACAMANDUEKEcMMDACBDERADABJAABFFACBBBACAFCNA",
      "AcPXAFABDBDbFAAFBNkHHDTBdLAbDbAAAXAKGrCBLJDFDBBBCENAAABFKHEBcEAAAbCDICmXcLjVtRbVUBFdasPA",
      "bfQFAAgFAPCbCAAAbCAAAfAAFDfeEBcvfZAbxUdGAcSABBABBBDALAAAGAcMADBHAGAbBADAEAACGAnBBlFBbXii",
      "PDAbAABAABAAJADAAAAFADAAAAAACABAABAAAAAAAAAABAABDAGADADAAAJAQECAEAQbZBdtDI"]⟩,
   ⟨["modifiercombiningmark", "mcm"], ["ckIBBAfAAFACBsMBACCAbEA"]⟩,
   ⟨["noncharactercodepoint", "nchar"],
     ["dsdCbFuFBdsyNBdsyNBdsyNBdsyNBdsyNBdsyNBdsyNBdsyNBdsyNBdsyNBdsyNBdsyNBdsyNBdsyNBdsyNBdsyN",
      "B"]⟩,
   ⟨["otheralphabetic", "oalpha"],
     ["bgFAbCMwDNAAABABAAcTKbVMAGPAdWGDDBBDAbIAbDPdXKdWBCIACADeBAcHLCGFTcBBBOABECJBbCCcFGBBBBJA",
      "JBbCCcFEDBBBDAbDBCAKCcFHACABUBVCDCcFGBBBBIBJBbDAcGECCACJAbNEcEGACACHBKBbCCcFGACACHBKBOAL",
      "DcFGACACJAJBbCCcWFAAAHRBcIABGRAdUABFABPAgGSIKAbJeFLAABDWDDCACBGCDMLAAJDclNBbDBbDBbDBcNSh",
      "FBbHAeNLDIiNEcEJBTcVBKCbWEbVOcHCbDIBBcEKbXSpVbHcoMbZdkFbFbtpZHbHBnPAHAWEdJBbXPAAcEAbLEbB",
      "LbSDbVLbKAcONLAHBbSCbXAACBBEAbREEAjCHbdzUAdeCEcmFCABEDbeHDcMAmIBcYCjYCcANbSBKCbSIIAcICbJ",
      "LRBcECbVMNBdNIBAFABAgAJWDcFGBBBBJAJBdFIAABAADABdYMACeBRjCGBGbCBdDOAAeBKdYNjWMjMFABBBCAAA",
      "fLGBFDAbBJbPEADRKbTNhRHhQHAGdEVANeRFCAABACAACAcNEABADnJDIBAAbVGCCyyMQfjBAAcCGDdOBbdaXAnk",
      "IGAQBGABAEdVAckGABAGBEAwUAczVZFZFZ"]⟩,
   ⟨["otherdefaultignorablecodepoint", "odi"],
     ["bgPAfiKBckGBdhMAglHAdacOAdAIbwmiGAAbDdReXjFfiL"]⟩,
   ⟨["othergraphemeextend", "ogrext"],
     ["drYAXAnTAXAdXAXAiXAAADBABIBdYAXAeOAOAdmQAbDAbnJAEAAAEBdWAcSBboHAgcUBbtwSAeDAbgnKBgwLAeLA",
      "kDANAIAdRAIABAACEAiPALAjGAkBAyIALAchEAbeoJBbkxMBFFbtlaYdR"]⟩,
   ⟨["otheridcontinue", "oidc"], ["hBAbbQAgaIIclBAciYBgkQAdaeIA"]⟩,
   ⟨["otheridstart", "oids"], ["jhLBdgIAUAfvVB"]⟩,
   ⟨["otherlowercase", "olower"],
     ["gOAOAtGIGBbDEdRAbZAfcYAepYcKMAbHbKbaMAMAPMiCPbgPZcwNBbugJBiBAeXDCBbhHDIAbiwRABCAbPAIddzG",
      "cJ"]⟩,
   ⟨["othermath", "omath"],
     ["dQAbhWCBAZBBBkqXAbACKAbFDXBNBcMMDACBDERADABJAACEFACBBBACAFCDEEcWEBDABABAAAEBBDBDRBBAAAGA",
      "AFBlDDgLBAAXAQArCBLIEEEBBBCENAAABFXBcEAAAbCDIBnDBbEJpMVcKDbFBdclEAAADAiCAAAdcoUdGAcSABBA",
      "BBBDALAAAGAcMADBHAGAbBADAEAACGAnBBYAYAbEAYAbEAYAbEAYAbEAYAHBbXiiPDAbAABAABAAJADAAAAFADAA",
      "AAAACABAABAAAAAAAAAABAABDAGADADAAAJAQECAEAQ"]⟩,
   ⟨["otheruppercase", "oupper"], ["mqQPbgFZgsiXZFZFZ"]⟩,
   ⟨["patternsyntax", "patsyn"],
     ["bHOJGZDAAZDbHGAAABAAABDADACAWAbEAluDXHOBSAJlSbbRgDyFbDbrNtReXoUCDYOAczqYBkAB"]⟩,
   ⟨["patternwhitespace", "patws"], ["JERAdVAlyLBXB"]⟩,
   ⟨["prependedconcatenationmark", "pcm"], ["chCFiGAbWAoTBdBAdvxXAOA"]⟩,
   ⟨["quotationmark", "qmark"], ["bIADAfAAOAlwTHYBfiCArODMCdabODhGADAdLB"]⟩,
   ⟨["radical"], ["rpWZAdKLiF"]⟩,
   ⟨["regionalindicator", "ri"], ["hgoKZ"]⟩,
   ⟨["sentenceterminal", "sterm"],
     ["bHALAPAcaAAfQCgXAbQCjLAcIAAACBlGBcpVBbeJADBbdSAhPBgABbSAEAmBBnPDgFBJBBBbCChEBcMBbjVAWBIC",
      "euWClTAMAVBqMAbshVAkJBiSACAoRBdHBdQAfVBfQCfNBjOAbfcVABBcGACBgMALAPAcMAedVBbxCEbRDhGBeMDe",
      "WCeYBFAPBdJBABeDAlLBeMBoIBEOeABjOCtWAAAjQBdIBqDBbaPBcVBbcmABfCAcMBKAvGBlJAbdoFAliLA"]⟩,
   ⟨["softdotted", "sd"],
     ["eBBhNAkUAbDAbZATAmHAdTAAAjmMAbYAMACAfBAgAAqEAiFBegFAgelGBbXBbXBbXBbXBbXBbXBbXBbXBbXBbXBb",
      "XBbXBdfXAlSBZA"]⟩,
   ⟨["terminalpunctuation", "term"],
     ["bHAJAAAKBCAbfXAHAtSAcEAcTANAACgXAbQKAAjABcBFAHbEAkABbwTBgPADFlYBbeIHbdSAeTCcSBgACCAbMDBB",
      "mBBnPDgFBJBACbCChEEcJBbjVAWBICeuWClTAMADAJAABCBqLBbshUBkICiSEoRBdHBdQAfUCfQCeWAPBjOAbfcV",
      "ABBcECADgMAJAAAKBCAcMABAbpPAbVAbsNAhQAlXBfVFcPFdKDbkPEbRDhGGeHDeWCeYBFAPBdJEeDAlLBeMCLBn",
      "TDCOeABjOCtWAAAjQBdIBDBpXCbSAyUBcVBbyWEbamYBfCAcMCJAvGBlIBbdoFAliKD"]⟩,
   ⟨["unifiedideograph", "uideo"],
     ["tsAjtNcLbfbJbicRBAAABJAAAABBCdveBclfBbFgmNBioBBlbKOxXgrPhhYEmoN"]⟩,
   ⟨["uppercase", "upper"],
     ["cNZdWWAGbGAAAAAAAAAAAAAAAAAAAAAAAAAAAAAAAAAAAAAAAAAAAAAAAAAAAAAAABAAAAAAAAAAAAAAABAAAAAA",
      "AAAAAAAAAAAAAAAAAAAAAAAAAAAAAAAAAAAAAAAABAAAACBAAABACBDABACCBABAAAAABAABAABACAAABCAGABAB",
      "ABAAAAAAAAAAAAAAABAAAAAAAAAAAAAAAAABABAACAAAAAAAAAAAAAAAAAAAAAAAAAAAAAAAAAAAAAAAAAAAAAAA",
      "AAAAAAAAAAAGBABBAADAAAAAAAAlCAAACAHAFAACAAABAQAIbIABCCAAAAAAAAAAAAAAAAAAAAAAAEABAABBbYbV",
      "AAAAAAAAAAAAAAAAAAAAAAAAAAAAAAAAAIAAAAAAAAAAAAAAAAAAAAAAAAAAAAAAAAAAAAAAAAAAAAAAAAAAAAAA",
      "BAAAAAAAAAAAABAAAAAAAAAAAAAAAAAAAAAAAAAAAAAAAAAAAAAAAAAAAAAAAAAAAAAAAAAAAAAAAAAAAAAAAAAA",
      "AAAAAAAAAAAAAAAAAAAAABbLehCbLAAEAbbTdHdgKAFbQBCmHAAAAAAAAAAAAAAAAAAAAAAAAAAAAAAAAAAAAAAA",
      "AAAAAAAAAAAAAAAAAAAAAAAAAAAAAAAAAAAAAAAAAAAAAAAAAAAAAAAAAAAAAAAAAAAAAAAAAAAAAAAAAAAAAAAA",
      "AAAAAAAAAAAAAAAAAAAAAAIAAAAAAAAAAAAAAAAAAAAAAAAAAAAAAAAAAAAAAAAAAAAAAAAAAAAAAAAAAAAAAAAA",
      "AAAAAAAAAAAAAAAAAAAAAAAAAAAAAAAAIHHFJHHHHFKAAAAAAAHHcTDLDLDLEKDkBADACCBCBACEFAAAAAADBDJB",
      "EAZPSAbfLZcsTbVbVAACBAAAAAADAABAHCAAAAAAAAAAAAAAAAAAAAAAAAAAAAAAAAAAAAAAAAAAAAAAAAAAAAAA",
      "AAAAAAAAAAAAAAAAAAAAAAAAAAAAAAAAAAAAAAAAAAAAHAAADAbtyIAAAAAAAAAAAAAAAAAAAAAAAAAAAAAAAAAA",
      "AAAAAAAAAAASAAAAAAAAAAAAAAAAAAAAAAAAAAAfEAAAAAAAAAAAAACAAAAAAAAAAAAAAAAAAAAAAAAAAAAAAAAA",
      "AAAAAAAAAAAAAAAAAAAAAAAAAAAAJAAAABAAAAAAAADAAABAAACAAAAAAAAAAAAAAAAAAAAEAEAAAAAAAAAAAAAA",
      "ADAAABAAAAAAAAAAAAAAAAXAbhaGZbuYbNfFbJfZKAOAGABcqBbYgAVegNbFbgjVbFcLYbmjEZZZZZZAABBABBBD",
      "AHZZZBADBHAGbABADAEAACGbAZZZZZZZZZZZbDYbGYbGYbGYbGYbGAgnKbHdbHZFZFZ"]⟩,
   ⟨["variationselector", "vs"], ["jcTCAAdjbZPbwnkXjF"]⟩,
   ⟨["whitespace", "wspace", "space"], ["JERAdVAZAihIAdpMKbCBEAbUAfxVA"]⟩,
   ⟨["xidcontinue", "xidc"],
     ["bWJGZDAAZbUAJAAABAEWAbEArPDLNEGAAAQeMABCCAAFEAAATAdEAfIAEBgJAbLBAFbOHbSAAABABAAHbADDbCKE",
      "cVDdXAHBJASBAPcGBdWNcBDABABbTRbBDKEXAGGcWAeYBJASAHBBBVAGAACDBIBBBDHADBAEBLJAAABCAFDBBVAG",
      "ABABABBAAEDBBCCAGDAAGPKCAIACAVAGABAEBJACACBAODBJIGACAHBBBVAGABAEBIBBBCGCDBAEBJAAPBAFCCAD",
      "CBAAABCBCCCLDECCADBAFANJPMACAWAPBIACADGBACABBDBJPDAHACAWAJAEBIACADGBECADBJACLMACAbYACAEE",
      "DGEBJJFACARCXAIAABGCADFAAAHFJBBMcFEOAJbMBAAAEAXAAAWBEAAAGAJBDbFAWBFJKAAAAADJAbJDTARAbJIA",
      "cEcVFcZBbLAAEABbQAmUADBGAAADBbOADBbGADBGAAADBOAcEADBcOBCIINPPdHBFCxVBQAZEcWCKGVIVKTLMACA",
      "BLdFCADBBJbGCAKFdKGbQEcRJbEALDLJbNBEKbRDZFKbKbBDcKAbCBKFJMAHNAbEBLTcYCJQILeLLcDHJCbWBKEb",
      "QBCPCAbMEuNBFBbLBFBHAAAAAAAbEBcAAGAACCAGCDBFDMECAGOBbWBSAbBAMAPMbYMDACLQADABJAABFFAAAAAA",
      "PBDEEDAQbOdzAiUFILbLAAEABcDGAOXIGAGAGAGAGAGAGAGAbFtWCYOAEBEDdHBBBCAdQEbQAdPQbFbVPtRjtNcL",
      "bguEcObTBkICbBTbVDJAeKbKIBdYBdDTcCDASbZLcRJJFXCAAbWBbJLbCCcMNKFbEAcCINBJFWCcUXCBPBEJFBFB",
      "FIGAGAbQANFeSABBJFqnRLWDbWmnBoBBeBbLGLEELAMAEAAABABAeDbGfIFiJRcLBcBbNJFPPPCBXCbGAAACAAAA",
      "AAAAeVSJGZDAAZJdLCFBFBFBCbILAZASABAOBNbHeScQcAfFAeZbCCbWOAbEbFMbDEbQEbDBbJDHAEbPgBBJFbJD",
      "bJDbNHbZLKAOAGABAKAOAGABCbZLlYIVJHXFAbPAIcQFBAAbRABCABWJWIbEcMSABJVJZFZbLcDFBcLDABEHACAb",
      "CBCDAbFbCCbCbIHAbDYcBJVJSMReFcUcCbYMbYMbNHJFbLCEAWjPbPABCBPFbXbIJAHbGbEVbPUbAWIcSbEPIcHG",
      "AMYGJFcAAJDDHbJBAIcQDDAMAAbIRAbKFDcJGAAADAOAJGcGEJFDAHBBBVAGABAEAJBBBCBAFAEGBGCEKJAABAAb",
      "LAJAABAADAHMBbCcWEJDDbDcRAAHJgJcBBIWFbHcMCAKJbLcEGJFTbBbABODJFGhCcGdWcVUHBABHABAbDABBILJ",
      "cRHBbTBHABbAcKHAHcVCARcUdYHdJbGOJFIAbSAIOJXbDBVANcUGABAbRCAABAIHJFFABAbKABAFGJFbRDJjLWIQ",
      "AbOCEMKdGAdAbjLdXeGQhNdxJdSObpFPVJfxQEwKkdCcFcoRvWGbEAJFdAAJFbDBEKcCIDLJIUESqPbSCJhPcLbF",
      "YBYbRcWDcEGQcLBABKGIkxXbObFdSeKmwQDAGABAlEOAbCCBANDHpFdkTeCEMCIGJCBgeQJtXbTBWuVECFHHBGbD",
      "DfRCrAdGAcSABBABBBDALAAAGAcMADBHAGAbBADAEAACGAnBBYAYAbEAYAbEAYAbEAYAbEAYAHBbXtRcCDbXHANA",
      "VEAObqLbEFFiEGAQBGABAEEcJbGAeHbSCNBJDAmIbEQcFsBbPiFbQhObEAVHBiPGADABAOAhOKGbOcXDJbtTDAbA",
      "ABAABAAJADAAAAFADAAAAAACABAABAAAAAAAAAABAABDAGADADAAAJAQECAEAQezZJbnPclfBbFgmNBioBBlbKOx",
      "XdqVuVcfXhhYEmoNbogxXjF"]⟩,
   ⟨["xidstart", "xids"],
     ["cNZFZbUAJADAEWAbEArPDLNEGAAAeYEABCCAAFAACAAATAdEAfIHgJAbLBAFbOcSbADDbSbQbIBAdUAAOBGBJCBA",
      "PAAbDbCdKKAXbGIBDAEVDAIACAWYGKEXAGPbPcFcBCARAGJOPDHBBBVAGAACDCAPAMBACNBJAHFDBBVAGABABABb",
      "EDAASCPIACAVAGABAECARAOBWAKHBBBVAGABAECAbDBACOAQAAFCCADCBAAABCBCCCLVAbZHACAWAPCAZCABBBbD",
      "ADHACAWAJAECAbDCABOBQIACAbOBAPAECHCXFERCXAIAABGcFbVAAMGcFBAAAEAXAAAJAAJABEAAUDbFAcKHAbJb",
      "AEeKbQTAPFDDCACBGCDMLAQbLAAEABbQAmUADBGAAADBbOADBbGADBGAAADBOAcEADBcObKPPdHBFCxVBQAZEcWC",
      "KGRMSNRNMACObZbIADAcOdKGbOAAEcRJbEbWbDBEKbRDZcBWIcAdDAdObUQHcBbDMBJbRZbJbOCJbJBKEbQBCbOD",
      "AFABCAEhJcLkRBFBbLBFBHAAAAAAAbEBcAAGAACCAGCDBFDMECAGeLAMAPMdWADABJAABFFAAAAAAPBDEEDAQbOd",
      "zAiUFDCBLbLAAEABcDGAPWIGAGAGAGAGAGAGAGvDCYIGEBEDdHFCAdLADEbQAdPQbFbVPtRjtNcLbguEcObTBkIC",
      "PJBTbUPbEBdBbMIBdYBdDTQACADAWbCbZNbXcJFCAABKbBJWYbCGbUbBAPEAJJEAbOWCAHTWCACbXAACBBEBAAAX",
      "CBKGCLFBFBFIGAGAbQANFeKbCqnRLWDbWmnBoBBeBbLGLEEAAJAMAEAAABABAeDbGfIFiJRcLBcBbNJeOAAACAAA",
      "AAAAAeVbJZFZKcDBbECFBFBFBCbILAZASABAOBNbHeScQcAkGbCCbWbUbFMbDEbLJbDBbJDHAEbPgBRbJDbJDbNH",
      "bZLKAOAGABAKAOAGABCbZLlYIVJHXFAbPAIcQFBAAbRABCABWJWIbEcMSABJVJZFZbLcDFBcLAODACAbCbPbCCbC",
      "bIHAbBbAcBJVJSMReFcUcCbYMbYMbJbLbBIWjPbPFBPFcDbCJAHVbPRbTUbAWLcAcEBBAMbSbFYZbJbCABAHbICA",
      "LbVNDUAAAbIRAYSBcKGAAADAOAJGbUbLHBBBVAGABAECARALEbDJAABAAbLAAYAAAbRcARDTCbDbVTBAAhBbUbOD",
      "bJbVTAcGbQMAcSbAbKGhCbReLcLbEHBABHABAXOAAAdPHBbMPAAAbBAJbNGAUAKbTSARcUhQbGbEIAbKQAbWbDeH",
      "GABAbLUAYFABAbFNAWbRjZSOAAMAbHeTAdAbjLdXeGQhNdxJdSObpFQFYfxQEwKkdCbDcpTvWGbEQdAQbDRbVPDb",
      "EUESqPbSiCcLbFYBYbRcWEAcNMcLBAANEIkxXbObFdSeKmwQDAGABAlEOAbCCBANDHpFdkTeCEMCIGJiwJdGAcSA",
      "BBABBBDALAAAGAcMADBHAGAbBADAEAACGAnBBYAYAbEAYAbEAYAbEAYAbEAYAHcsXbEFFkAcJfPbSJGPAmIbDRbR",
      "sPbBiTbDBAhYbEACABAGBEIBiPGADABAOAhOcGcPGAbuHDAbAABAABAAJADAAAAFADAAAAAACABAABAAAAAAAAAA",
      "BAABDAGADADAAAJAQECAEAQgnZclfBbFgmNBioBBlbKOxXdqVuVcfXhhYEmoN"]⟩]

end Property

def alphabetic : CodeSet := CodeSet.ofPieces Property.alphabeticPieces

def cased : CodeSet := CodeSet.ofPieces Property.casedPieces

def caseIgnorable : CodeSet := CodeSet.ofPieces Property.caseIgnorablePieces

def graphemeExtend : CodeSet := CodeSet.ofPieces Property.graphemeExtendPieces

end FleetMonitor.Text
