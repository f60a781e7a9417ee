import FleetMonitor.Text.CodeSet

/-!
# Editions of the character set

The code points that each edition added to those before it.
-/

set_option autoImplicit false

namespace FleetMonitor.Text

structure Edition where
  major : Nat
  minor : Nat
  pieces : List String

namespace Edition

def added (edition : Edition) : CodeSet :=
  CodeSet.ofPieces edition.pieces

def all : List Edition :=
  [⟨1, 1,
     ["AtHDbDcDdKGbUAJVcRZBRBDACAEGAAATAbRAGCAAAAAAAARMLAcNALAbOIcABBBBCbBBHBBcCbLBGAbMAAbLJA",
      "ILbAEEWANACAAZESMNBcTBEAOAbDBJtYCAcABRBECYPCAHBBBVAGAACDBAAGBBBCIADBAEBUGABFDBBVAGABAB",
      "ABBAAEDBBCKDAAGOLCAGAAACAVAGABAEBJACACBAOAEJQCAHBBBVAGABBDBHCBBCHBDBACDKQBAFCCADCBAAAB",
      "CBCCCHACDECCADIAOLNCAHACAWAJAEDGACADGBIBDJRBAHACAWAJAEDGACADGBGAABDJRBAHACAWAPDFBCADIA",
      "HBDJfOcFDbCbKBAABBAABAFDAGACAAAABBAMACBEAAAFBJBBrHbLJbMDADdLEcPEdDeoJfYEdLFVBFBbLBFBHA",
      "AAAAAAbEBcAAOANBFASBCAIAbUAWbIGCbAQKbKRbDcEZbVMdMUjHNAAeQfCbKbAKUfIUfTJdBPTFdHfODADBbB",
      "AbIAAADCAAGBGNbECXANddGcDGAAdFDFBdPFbNDdPAPdRbCCbJbBbBCbXOLDbUAeODdUBbEjwAbexXyjPjxTiB",
      "GLEFYAEAAABABAeDbGoAPcLBcBbNLbJDLUDJASADDCAAAfEBAAdPBdPCFBFBFBCCGAGNC"]⟩,
   ⟨2, 0,
     ["ccVQAMTAdmWcTAbGGbADFAAAUCGAAfqMAuGAcatVqnRdNdaTefbPBdsyNBdsyNBdsyNBdsyNBdsyNBdsyNBdsy",
      "NBdsyNBdsyNBdsyNBdsyNBdsyNBdsyNhlxH"]⟩,
   ⟨2, 1, ["mjSAdgoSA"]⟩,
   ⟨3, 0,
     ["tIDbDHBReMEbWAJEdIISAeLACAAAAAAAbDALAcNALAbPBBDdNBfZAhRCdTBEAOAbPEANAbDCbAcAbWcfGBARCX",
      "AIAABGCADFAAAHRCoIAbQAWCGAACAOBAbVbHAEABAGCDFZqFGAcKAAADBGAAADBbMAAADBbEAAADBGAAADBGAG",
      "AWAbEAAADBGAbMASFbBbIdGLyFIbCCdCfMdOCJVOAJFdJHbPcwAAXFdQCbXBdGBcTAdYIkIAeQAAbDfHBrOHbG",
      "AdHBpHjVccDZAdKLiFZLcHCCAnOXwLjtDbfeFbsUCRBPALACAAbgsBAbvUC"]⟩,
   ⟨3, 1,
     ["bmYBdqqBbFbxVbEADLbAgYbLBbLczdPjLJbMCgXuZdGAcSABBABBBDALAAADABAcMADBHAGAbBADAEAACGAmZD",
      "lDDbXpdVcleSbetCuVbpcqSAbDdR"]⟩,
   ⟨3, 2,
     ["uYAlPASMdZBbBAfQBcEBBBBBbWPnLBmIAdnGBchIMAGKWITLMACABdiWAFEDAGEMAcJBbXGdDOgLLjHNeTAbDb",
      "ZkXTfUJdJHVBdLLBJiNNdLbBDPjVtRbzMCdIBHBdPAjFPdCOdCObrdHBPALACAbgiZcGbjCACPcABbRAjAB"]⟩,
   ⟨4, 0,
     ["uZARCeOBcKQdBHECfUEtVDIIcLCfSBOAbSCbCCqTAhBAcOAAAfFAdFCMAcOAcGAeYHhKBefMARJkBbCCLDLDAC",
      "bPBEeCbFbdNeDbcOBiVAzIBlPAkPBeLHNBbqZNcrMBbWAbQBcZDgKDdUBbEAjtNcLcoqUAcUBqWLAZASABAOBN",
      "bHeSECDbSCIwDbDAAfDBbLdBBJbgVFBAAbRABCABAcyuHdInXAbtkcZjF"]⟩,
   ⟨4, 1,
     ["vVKkREgCDjLBgNAbHCcOARAcFFjGbDuGAdBAsSAbUAbmMBlIBAAkFAcKAcKAbMAbEAbEAbEAOAbMAWBbEZcgBb",
      "PFZFJDBbFbBBBbgLdJzGBAGbWEbCDcAAdBAOAyTKvZAdWBRKEPkJGbgGFjBbUAbUbGeCNbSJcBIAPWIGAGAGAG",
      "AGAGAGAGbGXDBbjTPgRAbpiSVctNWiYbRbfdZeBbfPJbeZcWuMbJDNciRDABEHACAbADCDIHIcxpUcRbqZB"]⟩,
   ⟨5, 0,
     ["wGNlMCmYAbPFPDgJAtWcGoTBABbhHBMBfiIcXDbSwKGbYBbcTDdOBcAAxALbbLAkPDbgIGEDmDMGDbulIDEBkZ",
      "cDbkoLZEAirFbhUfOdUMDcogHRbqTB"]⟩,
   ⟨5, 1,
     ["bhWDBBdIAhAAfJPiREKEbFElPRtCBiNAbIAhXAbCBeDAeDAZBHBTHhGAFAbCBLFCGsWBdSACCcYAEABAGCDFZc",
      "LDBdbDAbbWbQCLcRcDCOCbYmSbBgYDdLFnRAfIAdPAcADbxZAUJCDkDAbEDbfEEDbOCEkTCACDFnPbFXDBSbdJ",
      "AgFTbppNHbzNlNTbFBRHbBfAEBeCeFEeXcQILbLdFKAgDcCINBJBDbfsTCbhOLbZbTeZbCCbWckCZEAcxsIAlr",
      "PbRDdV"]⟩,
   ⟨5, 2,
     ["byQBbcBbTBOhKAcYAFAbIBeXAcfODhKDhFEcPEdDFtRAyFIvNcRgXBbTAcQcKAbCBKFJFNuZbIkFAbaTCfUCcB",
      "AxHAbaQBbCCDJASAADXdIAbnGEkRAMBeCGmGAboBLbplRHbxJbVpZdJlZJgJbBdVbCCcZAKDBeXbBDcOXEiPbT",
      "BJqoJWDbWnbACfgBVAIhDBmLbFeXcBCbCBbAEHeXcUuObEtScNlvPbpEctnCKEbEBAKAAABACACEHAGAYAABBA",
      "JDBAeGAObHNIcqlIgdO"]⟩,
   ⟨6, 0,
     ["bySBjNAcJAsLbBBAiKBSAFBbAEtLFqQAPASAwADcUBbiNBdeMbZHDtNAzNHbBAbfIKbcBASAADbCADBbBAbIAA",
      "ADCIBbZCXANANBcdJANAbpNCbseMBlMBABNJdBAbdTFBFBFIGAGbemSPhrHcZDbDbheDvWbalABymFOBNBOAOd",
      "BAAKAAABACACEHAGAJFIAABBAJDBAJcWZABbUIUBgRbGOFAcRCTLbKAEUQOcKAAAgZADCcJRXfQEAPACAAAAAA",
      "ACAFBDAABDALDKbVcRcFeLcuqLiN"]⟩,
   ⟨6, 1,
     ["ccTAeLAzQAAKcCbAtCAbmQBsSAEAbUCebACLFjVHbQDecPAAAbyPBbYAEAcDBhTJbraDAcnMHbIAjHBVAcYBbc",
      "NWbdzYBfuTcDFBcrNYGJFcAANcHcUGJbtTcDHJbhkNcQKbUPQbvwHDAbAABAABAAJADAAAAFADAAAAAACABAAB",
      "AAAAAAAAAABAABDAGADADAAAJAQECAEAQbZByHBblRDhFAPACAAAAAAACAFBDAABDA"]⟩,
   ⟨6, 2, ["mkGA"]⟩,
   ⟨6, 3, ["ciEAjyUD"]⟩,
   ⟨7, 0,
     ["biLAqHHdOBeNAzQAKFcXAePAGAyOAbYAcXAeWAiTJdkQHvBBpKOvWBjCObbGCbfPGbdSAbqHCJZBbFBbHCLAHx",
      "TGbtoUFjLLKCBBcQAsTbEeUDgTbVDBbfiUGbhCBSAmGbBbIAbVbQoYbNHbZKAfNlYIVJHjNcKHIrVbFbFbMDLf",
      "GRGDLGbvIAhZbMdHALAFTKRAbQeJcGEJGCAHBBBVAGABAEBIBBBCIAEGBGCEkGcTHJgJcBBRcBcQKJwJdELArF",
      "cEdfHbPhTLEAbalEbEAJDBdRbDBFJcRJJAGAUESbelZeCEMCIGJBHqkXhOBPczVAbFVUBuLLIAcRAVLbKAEDEL",
      "QGcSAAAgZADBcKBDGbCRAbOAdHcRBMbVcRJPMCDfJdGbQLDcDHJFbNHbD"]⟩,
   ⟨8, 0,
     ["dhRBbTAuMAnNAjZAcmUABFevNAhUBdyDDbrwUIcoTAjFAbHFmLBxLDLdBbffPBebFSABEEhFBBPBbTyPbYMbYG",
      "FbvCDNEgDGAAADAOAKdHAdAAyITlDZCODPerOAiVhNlqPwKcawKKchYzBOEAOjhCCcZBdAEbJHjUAcWEjIBfIA",
      "wCIdYEcGAcucKinP"]⟩,
   ⟨9, 0,
     ["dhUHVObjOAhXADCAGWCfrYIoFAchADdxBBbtzKAkRAbhqCBbeUbJDbJfaNArGdLAAAAtTMccWIAbSANJbCCbFB",
      "VANbfmUAbEjbOSbdAbgfKGAQBGABAEdiYcWEJDBddARfLAbfXAbOAlNBbGCuZFAHHABLALDObLM"]⟩,
   ⟨10, 0,
     ["deMKpKBjRFtRAcFBfyVAjTDbbGAbfYAcyZAyBEbcLAbpxMUblpHCiqPcTHbZBWAExGGABAbRCAABAIHJbfgOAy",
      "hJkYdCpFyaDFbrOBbHBtYLSAHHABYARMbLFcDWdcpClbK"]⟩,
   ⟨11, 0,
     ["caYAbMAdXAuECiCAlLAeOApGAeWAenQAboGbQBCfrLCVYDOwOEbcHAbpyGEcyGAHBmLBbkvBBRAbaSbNHJrLbN",
      "HbPoGAeNCtFAlDAbaWAiUcHxKAbbDFABAbKABAFGJlXYbeaOdMjpHEbcjTTeVGjlVcPbsBAceYAiKDoHCbBEBD",
      "CAADXKMJGBbJYdRN"]⟩,
   ⟨12, 0,
     ["esTAuFABABAAFDAGAGBBAMAfkGAfpTAcAAwSAbtzLFBEbjQBbmbFWbrJAxBAbcOHBbTBKgCBbzLbXMAhqTIwjJ",
      "FDAbUIdLBjcVFprBCQDsaPbSCNBJDBoDcFEAcjYAbkMcIbpDAcbFAbJAiULlCCbUAbWAIAbOFCBJFCHBCbVdFb",
      "BDDCECMF"]⟩,
   ⟨12, 1, ["tiDA"]⟩,
   ⟨13, 0,
     ["diCJzCAqNAeTAfaIBgjTAbaTCbhNEkpHJbfdFMcyRDbPBcAAbfUDbgqPAewWbPACBBjTbBoOAfDByZAEBbtLGB",
      "ABHABAbDABBLIJckJAbejQAKBkfWsObPIblwTCdOCcIAbyTBbIBqSBdLAdWADBbPBFCbCAgLANDOSGGICMGbOf",
      "QAcCbKJcmsIGbhtPhhY"]⟩,
   ⟨14, 0,
     ["ciFAwVbEABFHUARKbhOAbFAeWAdwGAGAIAjEAbaMNeUAbVByKAbbGAeiNAbUAtEKbraSCcyHBNBAAAEXCbftCA",
      "oQPeWAbTBcvFKAOAGABAKAOAGABrIFAbPAIcxWZiVFcXAcgRAfDGbhOPhwXdUwdWdAAJbaeVDAGABlBDliAbTB",
      "WIeLvCBeyUbEbhWbEbzCGADABAOfqJCkLApBAdDAgRBbRDJDHCQCFHHGcncOBgeUD"]⟩,
   ⟨15, 0,
     ["exNAsFAdtaJCbfYCdiBJbmZQAbOCbBhxCAIbCbvhJAbHAmqZTerGFkAcJbGAbpVbPguBAfUCDEdKAzQCOBbJCK",
      "CAANBJBLANBcthNAbiwRgfF"]⟩,
   ⟨15, 1, ["seMDtAAkeiPxX"]⟩,
   ⟨16, 0,
     ["dgPAhcFBbUAkEBcwXCffDBbsqUCLCbjoKbZctVbLCbCHBlTCcCAbsKJAABAAbLAJAABAADAJABHBbcUTbvVbHN",
      "JbhFAhyYfxQkzScFeoJcFlyIAxwHjPFqTitNbQDAhcBJDBrMAEAbTAGAUABAIAiQbK"]⟩,
   ⟨17, 0,
     ["dgHAblJAeWAfhHOBLcfKAecPAbvbABBAAAbBAbftGPrCBcBGeiQZcbICHIbGBerZHwLbRDJbeoRYBYkZEjcIHb",
      "xOVdSeKxwOCrCWOQjaKbEAVHBfzZAgBDnCIoODbXACAcEADAbBADAkFAcsxQFiwFLbgeZgjH"]⟩]

def addedBy (major minor : Nat) : CodeSet :=
  CodeSet.unionAll ((all.filter fun e => e.major = major && e.minor = minor).map added)

def upTo (major minor : Nat) : CodeSet :=
  CodeSet.unionAll
    ((all.filter fun e => e.major < major || (e.major = major && e.minor ≤ minor)).map added)

end Edition

end FleetMonitor.Text
