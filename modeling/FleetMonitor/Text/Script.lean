import FleetMonitor.Text.CodeSet

/-!
# Scripts

The characters of each script, and those that are written with it though they have
another script or several.
-/

set_option autoImplicit false

namespace FleetMonitor.Text

structure Script where
  names : List String
  pieces : List String
  /-- The characters that are written with the script, or nothing if these are its
  own. -/
  usedPieces : List String

namespace Script

def members (script : Script) : CodeSet :=
  CodeSet.ofPieces script.pieces

def used (script : Script) : CodeSet :=
  CodeSet.ofPieces (if script.usedPieces.isEmpty then script.pieces else script.usedPieces)

def all : List Script :=
  [⟨["adlam", "adlm"], ["hdeUcXDJDB"], ["ciHAbFAjwNAfhGAglrHcXDJDB"]⟩,
   ⟨["ahom"], ["ebrCbABODW"], []⟩,
   ⟨["anatolianhieroglyphs", "hluw"], ["essEwK"], []⟩,
   ⟨["arabic", "arab"],
     ["chCEAFANACAbFAJKZAeDAbHdBbVjFbHEcWAbCdntVsZBfNbFPeHEAfEfvMbEcOFHIbGFdglRDAbAABAABAAJAD",
      "AAAAFADAAAAAACABAABAAAAAAAAAABAABDAGADADAAAJAQECAEAQbZB"],
     ["chCEAiGAbHdBbVjFbHEcWAbCivMAfhGAczqZyPbFPeHEAfEbmGbBeiDbEcOFHIbGFdglRDAbAABAABAAJADAAA",
      "AFADAAAAAACABAABAAAAAAAAAABAABDAGADADAAAJAQECAEAQbZB"]⟩,
   ⟨["armenian", "armn"], ["bzDbLBbXBCdozIE"], ["bdWAvFbLBbXBCdozIE"]⟩,
   ⟨["avestan", "avst"], ["dxcYcBCG"], ["hBArfRBdfqBcBCG"]⟩,
   ⟨["balinese", "bali"], ["kfWcYAbX"], []⟩,
   ⟨["bamum", "bamu"], ["clcQdJcvcPvW"], []⟩,
   ⟨["bassavah", "bass"], ["fhkIbDBF"], []⟩,
   ⟨["batak", "batk"], ["knGbZHD"], []⟩,
   ⟨["bengali", "beng"],
     ["dpODAHBBBVAGAACDBIBBBDHADBAEBY"],
     ["baYAcmTBQBZDAHBBBVAGAACDBIBBBDHADBAEBYhdGAAABBAAHAHABADABCcbaEA"]⟩,
   ⟨["bhaiksuki", "bhks"], ["edoIIAbSANJbC"], []⟩,
   ⟨["bopomofo", "bopo"], ["bcSBrlWbQeHbF"], ["bbJAACMAPBrbWCDJAMJDBAFAhMAIbQeHbFczlSBkVE"]⟩,
   ⟨["brahmi", "brah"], ["dzaEcZDbJIA"], []⟩,
   ⟨["braille", "brai"], ["pdWjV"], []⟩,
   ⟨["buginese", "bugi"], ["jwAbBBB"], ["jwAbBBBcckSA"]⟩,
   ⟨["buhid", "buhd"], ["iuYT"], ["iuNBIT"]⟩,
   ⟨["canadianaboriginal", "cans"], ["hoYyPvNcRdtpPP"], []⟩,
   ⟨["carian", "cari"], ["dtyMbW"], ["hBAlzLABAfgCAdclPbW"]⟩,
   ⟨["caucasianalbanian", "aghb"], ["duxSbZKA"], ["bdSAbRAbRAdtqMbZKA"]⟩,
   ⟨["chakma", "cakm"], ["dzkAcAAR"], ["dtMJckDJdtfPcAAR"]⟩,
   ⟨["cham"], ["cmjWcCINBJBD"], []⟩,
   ⟨["cherokee", "cher"], ["hlGdHBFcfjDdB"], ["bdOCAAFBVBKBgfTdHBFcfjDdB"]⟩,
   ⟨["chorasmian", "chrs"], ["dyxCbB"], []⟩,
   ⟨["common", "zyyy"],
     ["AcMZFZbUAOAEWAbEArGbMEEBTeLAIAFAAAyMAFANACAbFAfZAtVAeYBbvSApODlDAcgKCcSBhUBAAbvGAMAGDA",
      "FACBAbdSLBdIAKCKAOQbHcJbLACBFAbAAQbOCDzPVKUbjRjVyDBfHtRdPpLUAAAYOHDDdMBCAdLBfQPbFbLIAb",
      "VcLbEdCbUAdJgLjtNcLbhsHbHdXCgIJjJAgDApEANBbezPBhZJVbIASADfQAAbFZFZKJAbSBcLGAGJEjXCDbSC",
      "IdBMbYbSiTbAcshVDfvFjSCqTFWOQdQeLcHjLJbMBcJCQHBGbDDcIiETLTLdIIYfEdGAcSABBABBBDALAAAGAc",
      "MADBHAGAbBADAEAACGAnBBlFBbXhtGcPcXcIbbDbRDdVLOBOAOAbKJgRcDZABMbRDIGBNFfXblWCQCMCiJFLDA",
      "OLDcDHJFbNHbDBLDBNIbMnFHNBMCKCcEAADPBLDJGfQAdYbsuwZAbDdR"],
     ["AcMZFZbUALABAEWAbEArGCAJAACAAIAAAFEEBTeVAFAAAyMAiGAtVAcaTApODgdALBbGAbEAJABAGAKCKAOQbH",
      "cJbLACBFAbAAQbOCDzPVKUbjRjVyDBfHtRWAXBJADAAAZqBACAMAMAUAuIXbEAbWOLDgEJEdRbEAjtNcLbhsPZ",
      "dXCblNANBbfhRJVUBLASADfQAAbFZFZFeWGAGJEpLMbYbScynAjSCqTFWOQdQeLcHjLJbMBcJCQHBGbDDcIiET",
      "LTLdIbAGfEdGAcSABBABBBDALAAAGAcMADBHAGAbBADAEAACGAnBBlFBbXhtGcPcXcIbbDbRDdVLOBOAOAbKJg",
      "RcDZABMbRDIWFfXblWCQCMCiJFLDAOLDcDHJFbNHbDBLDBNIbMnFHNBMCKCcEAADPBLDJGfQAdYbsuwZAbDdR"]⟩,
   ⟨["coptic", "copt", "qaac"], ["bmGNpjJeLEG"], ["hBAwLACBAAeDBeDNpjJeLEGkSAdcpBbB"]⟩,
   ⟨["cuneiform", "xsux"], ["efbSbjLdXeGAEKhN"], []⟩,
   ⟨["cypriot", "cprt"], ["dvzKFBAAbRABCABA"], ["dtiMCDbSCIcoLFBAAbRABCABA"]⟩,
   ⟨["cyprominoan", "cpmn"], ["ekyYdU"], ["dtiMBrqJdU"]⟩,
   ⟨["cyrillic", "cyrl"],
     ["bnKfCBgMivNKgDAcXAgfMbFbtnZdRbheBBdhpFcJbGA"],
     ["baYAcOCAAAAAABAEAjDlRivNKgDAcXAeWAgaObFcOAbtlJdRbheBBdhpFcJbGA"]⟩,
   ⟨["deseret", "dsrt"], ["dumAdB"], []⟩,
   ⟨["devanagari", "deva"], ["dkQdCDOBZcijFbFbreLJ"], ["baYAcjQdEBbQhiDbMABbmZAbzfQJgJbFbreLJ"]⟩,
   ⟨["divesakuru", "diak"], ["eckUGBABHABAbDABBLIJ"], []⟩,
   ⟨["dogra", "dogr"], ["ecaYcH"], ["doMLcidBJbqiNcH"]⟩,
   ⟨["duployan", "dupl"], ["gmdSeCEMCIGJBD"], ["hBAwSBAAXBqiGAfuqKeCEMCIGJBH"]⟩,
   ⟨["egyptianhieroglyphs", "egyp"], ["eldGbqRJfxQ"], []⟩,
   ⟨["elbasan", "elba"], ["duvWbN"], ["hBAwQAdtsBbN"]⟩,
   ⟨["elymaic", "elym"], ["dyyYW"], []⟩,
   ⟨["ethiopic", "ethi"],
     ["gvGcUADBGAAADBbOADBbGADBGAAADBOAcEADBcOBbFCZjuZWIGAGAGAGAGAGAGAGbvkBFBFBFIGAGepyEGADAB",
      "AO"],
     ["beCAfrCcUADBGAAADBbOADBbGADBGAAADBOAcEADBcOBbFCZjuZWIGAGAGAGAGAGAGAGbvkBFBFBFIGAGepyEG",
      "ADABAO"]⟩,
   ⟨["garay", "gara"], ["dxzCbLCbCHB"], ["chOANACAdvqTbLCbCHB"]⟩,
   ⟨["georgian", "geor"],
     ["ghSbLAAEABbQADejVbQBCgdZbLAAEA"],
     ["hBAbvKAefDbLAAEABbVejVbQBCbjLAeuMbLAAEAjYA"]⟩,
   ⟨["glagolitic", "glag"],
     ["qrGdRgizFGAQBGABAE"],
     ["hBAwOAAAoRABAjWAeiQAfvHAekQdRsOAbtnEAeotJGAQBGABAE"]⟩,
   ⟨["gothic", "goth"], ["dueAbA"], ["hBAwPBBAbNAdsyNbA"]⟩,
   ⟨["grantha", "gran"],
     ["eadSDAHBBBVAGABAEBIBBBCBAFAEGBGCE"],
     ["dnTBQByPNgjZAABbDCCBbmZAdnrIDAHBBBVAGABAEAJBBBCBAFAEGBGCEerQBAA"]⟩,
   ⟨["greek", "grek"],
     ["bhWDACBDAADAAAACAAATAcKNPjnPEbXEDEdFAmHVBFBbLBFBHAAAAAAAbEBcAAOANBFASBCAIlIAcajDAbgnHd",
      "AQAdaxQcR"],
     ["hBAwLBBAAAAAJAbTABAbPHBDAADAAAACAAATAcKNPjnPEbXEDEdFCmFVBFBbLBFBHAAAAAAAbEBcAAOANBFASB",
      "CAIdPAhRAcajDAbgnHdAQAdaxQcR"]⟩,
   ⟨["gujarati", "gujr"],
     ["dzLCAIACAVAGABAEBJACACBAODBLGG"],
     ["dnTBQBkWCAIACAVAGABAEBJACACBAODBLGGchnRJ"]⟩,
   ⟨["gunjalagondi", "gong"], ["eebWFABAbKABAFGJ"], ["hBAdhJBeanHFABAbKABAFGJ"]⟩,
   ⟨["gurmukhi", "guru"],
     ["duNCAFDBBVAGABABABBAAEDBBCCAGDAAGQ"],
     ["dnTBQBfYCAFDBBVAGABABABBAAEDBBCCAGDAAGQchsYJ"]⟩,
   ⟨["gurungkhema", "gukh"], ["fdrScF"], ["doNAfadDcF"]⟩,
   ⟨["han", "hani"],
     ["rpWZAdKLiFbUAAAYINDblBjtNcLbfbJbhsHoBBeBbsiHBLGccoEclfBbFgmNBioBBlbKOxXdqVuVcfXhhYEmoN"],
     ["hBAriTZAdKLiFZPACAMAMAMBAFIhEAfRPbFbLIAbVbNcDbWOLbYAdJYJEdRbEAjtNcLbfbJcqXHbfbBoBBeBbh",
      "QBkVEbqpNBLGblqURlrXBfeRclfBbFgmNBioBBlbKOxXdqVuVcfXhhYEmoN"]⟩,
   ⟨["hangul", "hang"],
     ["glKjVllDBjWdPeIbEcMbEbtaMbCySqnRLWDbWpaHbECFBFBFBC"],
     ["glKjVljKCDJAMNCFAhMAcAdPeIbEcMbEbtaMbCySqnRLWDbWomYBkVEcFbECFBFBFBC"]⟩,
   ⟨["hanifirohingya", "rohg"], ["dxwQbNHJ"], ["chOANACAbFAfQAdvhIbNHJ"]⟩,
   ⟨["hanunoo", "hano"], ["itSU"], ["itSW"]⟩,
   ⟨["hatran", "hatr"], ["dwiASABEE"], []⟩,
   ⟨["hebrew", "hebr"], ["ccVcCHbADFdovVZAEAAABABAJ"], ["bdVByXcCHbADFdovVZAEAAABABAJ"]⟩,
   ⟨["hiragana", "hira"],
     ["shDdHFCfpeUlARAbCCymUA"],
     ["seRCDJAMPFAADBCdHBHdLBcztFBkVEJAbSBcouQlARAbCCymUA"]⟩,
   ⟨["imperialaramaic", "armi"], ["dwbWVAI"], []⟩,
   ⟨["inherited", "zinh", "qaai"],
     ["bdOeHkQBrJKZAbcHDgoWbTBLsPCAMAGDAFACBhPcLuDBhLbGftWDeCBczuIPPNblMAiRAgeZActcTbTBWuXCQH",
      "BGbDDbtlhHjF"],
     ["beDABAAOCGBABPABARAEADcgLBgoWbTBLbbXcBAAAEuDBhLbFdfsPPPNblMAczqNbTBWuXCQHBGbDDbtlhHjF"]⟩,
   ⟨["inscriptionalpahlavi", "phli"], ["dxgQSEH"], []⟩,
   ⟨["inscriptionalparthian", "prti"], ["dxfKVBH"], []⟩,
   ⟨["javanese", "java"], ["cmeYcZBJDB"], ["cmeYcZAKDB"]⟩,
   ⟨["kaithi", "kthi"], ["dzfCcOJA"], ["doOJnxWAbufDJbnmRcOJA"]⟩,
   ⟨["kannada", "knda"],
     ["etCMACAWAJAEBIACADGBECADBJAC"],
     ["dnTBQBbeNMACAWAJAEBIACADGBECADBJACgaDAABFAWAAAcasWF"]⟩,
   ⟨["katakana", "kana"],
     ["skVdLBCjFPhZbUAdJczhDJAbScouBDAGABAAlACbXAND"],
     ["bdTAbCAqzSCDJAMPFAADBdMDCdRjFPhZbUAdJcywABkVcKcotZDAGABAAlACbXAND"]⟩,
   ⟨["kawi"], ["eerWQAbOCbC"], []⟩,
   ⟨["kayahli", "kali"], ["cmaAbTAA"], ["cmaAbV"]⟩,
   ⟨["kharoshthi", "khar"], ["dwtCDABEHACAbCBCDJGI"], []⟩,
   ⟨["khitansmallscript", "kits"], ["fjiIAkgWsBbOA"], []⟩,
   ⟨["khmer", "khmr"], ["ixKdPBJFJsRbF"], []⟩,
   ⟨["khojki", "khoj"], ["dztWRAbU"], ["edIJchoHJbobLRAbU"]⟩,
   ⟨["khudawadi", "sind"], ["eaaQcGEJ"], ["doMBcidLJboiFcGEJ"]⟩,
   ⟨["kiratrai", "krai"], ["fiiIcF"], []⟩,
   ⟨["lao", "laoo"], ["fmVBAAAEAXAAAWBEAAAGAJBD"], []⟩,
   ⟨["latin", "latn"],
     ["cNZFZbUAOAEWAbEArGbMEjxAbLFbWEDEMAcRcMjVoEAMAPMfKBFAbAAQbOecSbFbulLdXCdDTObfJbQAIADbed",
      "PGboJZFZdcEFAbPAIddnObEFF"],
     ["cNZFZbUALABAEWAbEArGCAJAACAAIAAAFEbAOABAAOCGBABbLAEADMkQBbvDBcxJAeoHbLFbWEDEMAcRcEAGjV",
      "lQAcMAMAPMdEAcEBFAbAAQbOecSbFpQAbtuLHZdXCdDTOlPAtSbQAIADbedPGboJZFZdcEFAbPAIddnObEFF"]⟩,
   ⟨["lepcha", "lepc"], ["kpScDCOCC"], []⟩,
   ⟨["limbu", "limb"], ["jmEbEALDLDACL"], ["doNAfxPbEALDLDACL"]⟩,
   ⟨["lineara", "lina"], ["dvfSlYIVJH"], ["dtiTbSbvFlYIVJH"]⟩,
   ⟨["linearb", "linb"], ["dsyQLAZASABAOBNbHeS"], ["dsyQLAZASABAOBNbHeSECDbSCI"]⟩,
   ⟨["lisu"], ["ckkUbVbulZA"], ["baYAPArdJBbsfRbVbulZA"]⟩,
   ⟨["lycian", "lyci"], ["dtxGbC"], ["mgOAdhqQbC"]⟩,
   ⟨["lydian", "lydi"], ["dwkMZEA"], ["hBArfSAdexPZEA"]⟩,
   ⟨["mahajani", "mahj"], ["dznCbM"], ["hBAdhJLcidBJbnuRbM"]⟩,
   ⟨["makasar", "maka"], ["eeqQY"], []⟩,
   ⟨["malayalam", "mlym"], ["eyAMACAbYACAFDPBZ"], ["dnTBQBbjLMACAbYACAFDPBZfvDAWAcasYC"]⟩,
   ⟨["mandaic", "mand"], ["ddGbBBA"], ["cjOAtQbBBA"]⟩,
   ⟨["manichaean", "mani"], ["dxaMbMDL"], ["cjOAduqWbMDL"]⟩,
   ⟨["marchen", "marc"], ["edsQbFBVAN"], []⟩,
   ⟨["masaramgondi", "gonm"], ["edyEGABAbRCAABAIHJ"], ["doMBeajPGABAbRCAABAIHJ"]⟩,
   ⟨["medefaidrin", "medf"], ["fisEdM"], []⟩,
   ⟨["meeteimayek", "mtei"], ["cmsMWhSbTBJ"], []⟩,
   ⟨["mendekikakui", "mend"], ["hcuYhOBP"], []⟩,
   ⟨["meroiticcursive", "merc"], ["dwpKXDTBbT"], []⟩,
   ⟨["meroitichieroglyphs", "mero"], ["dwoEbF"], ["mgRAdkhLbF"]⟩,
   ⟨["miao", "plrd"], ["fizOcWDcEGQ"], []⟩,
   ⟨["modi"], ["ebhGcQKJ"], ["clsAJbpoVcQKJ"]⟩,
   ⟨["mongolian", "mong"], ["jcIBBAATFdKGbQdscAM"], ["jcIZFdKGbQcvZAfzSBEDdjfVM"]⟩,
   ⟨["mro", "mroo"], ["fheUbEAJDB"], []⟩,
   ⟨["multani", "mult"], ["dzyUGAAADAOAK"], ["dyKJdvzZGAAADAOAK"]⟩,
   ⟨["myanmar", "mymr"], ["gbOgDcgaXbEdSbFbpaLT"], ["gbOgDcfuBAgUbEdSbFbpaLT"]⟩,
   ⟨["nabataean", "nbat"], ["dweIbEHI"], []⟩,
   ⟨["nagmundari", "nagm"], ["hbpObP"], []⟩,
   ⟨["nandinagari", "nand"], ["ecqYHBbTBK"], ["dnTARBbiLJgbGAHAGAcasQFbqyRHBbTBK"]⟩,
   ⟨["newtailue", "talu"], ["jrCbRDZFKCB"], []⟩,
   ⟨["newa"], ["eanOdNAE"], ["dnTBhkBAABIAFAAAAAdpoRdNAE"]⟩,
   ⟨["nko", "nkoo"], ["cyIcGBC"], ["chOANACApZcGBCdowRB"]⟩,
   ⟨["nushu", "nshu"], ["fjiFAyvLpF"], []⟩,
   ⟨["nyiakengpuachuehmong", "hmnp"], ["haeAbSCNBJDB"], []⟩,
   ⟨["ogham", "ogam"], ["inObC"], []⟩,
   ⟨["olchiki", "olck"], ["ksUbV"], []⟩,
   ⟨["olonal", "onao"], ["hbzKbQDA"], ["doMBgykVbQDA"]⟩,
   ⟨["oldhungarian", "hung"], ["dxrSbYMbYGF"], ["mgOABAfgCAOAdgeFbYMbYGF"]⟩,
   ⟨["olditalic", "ital"], ["ducEbJIC"], []⟩,
   ⟨["oldnortharabian", "narb"], ["dwyAbF"], []⟩,
   ⟨["oldpermic", "perm"], ["dufGbQ"], ["hBAwLAECJAoCAdsmTbQ"]⟩,
   ⟨["oldpersian", "xpeo"], ["duiIbJDN"], []⟩,
   ⟨["oldsogdian", "sogo"], ["dyqIbN"], []⟩,
   ⟨["oldsoutharabian", "sarb"], ["dwwUbF"], []⟩,
   ⟨["oldturkic", "orkh"], ["dxmUcU"], ["mgOAfgEAdfzYcU"]⟩,
   ⟨["olduyghur", "ougr"], ["dyuQZ"], ["cjOAdusUAbsEZ"]⟩,
   ⟨["oriya", "orya"],
     ["eeJCAHBBBVAGABAEBIBBBCGCDBAEBR"],
     ["dnTBQBpUCAHBBBVAGABAEBIBBBCGCDBAEBRgpDAWA"]⟩,
   ⟨["osage", "osge"], ["dusUbJDbJ"], ["bdPABAFAcXAdtlUbJDbJ"]⟩,
   ⟨["osmanya", "osma"], ["duqYbDBJ"], []⟩,
   ⟨["pahawhhmong", "hmng"], ["fhmEcRJJAGAUES"], []⟩,
   ⟨["palmyrene", "palm"], ["dwdCbF"], []⟩,
   ⟨["paucinhau", "pauc"], ["edcAcE"], []⟩,
   ⟨["phagspa", "phag"], ["clsQcD"], ["jcKBAAdcIAfzTAbtnWcD"]⟩,
   ⟨["phoenician", "phnx"], ["dwjGbBCA"], []⟩,
   ⟨["psalterpahlavi", "phlp"], ["dxhWRGDLG"], ["cjOAduyGRGDLG"]⟩,
   ⟨["rejang", "rjng"], ["cmbWbJKA"], []⟩,
   ⟨["runic", "runr"], ["ioUcWCK"], ["ioUdK"]⟩,
   ⟨["samaritan", "samr"], ["daUbTBO"], ["daUbTBOojPA"]⟩,
   ⟨["saurashtra", "saur"], ["clvCcRHL"], []⟩,
   ⟨["sharada", "shrd"], ["dzoYdRdpNH"], ["dnTAhkEAAABBBAIABAcatDFBAbnwOdRdpNH"]⟩,
   ⟨["shavian", "shaw"], ["dupCbV"], ["hBAduhZbV"]⟩,
   ⟨["siddham", "sidd"], ["ebcIcBBbL"], []⟩,
   ⟨["signwriting", "sgnw"], ["gwtKzBOEAO"], []⟩,
   ⟨["sinhala", "sinh"],
     ["fcZCARCXAIAABGCADFAAAHFJBCdulFT"],
     ["doMBboKCARCXAIAABGCADFAAAHFJBCfrOAdotPT"]⟩,
   ⟨["sogdian", "sogd"], ["dysEbP"], ["cjOAdwiObP"]⟩,
   ⟨["sorasompeng", "sora"], ["dziEYGJ"], []⟩,
   ⟨["soyombo", "soyo"], ["ecxSdE"], []⟩,
   ⟨["sundanese", "sund"], ["kkUcLjVH"], []⟩,
   ⟨["sunuwar", "sunu"], ["edlWbHNJ"], ["bdOBAAIABAbBACAecgJbHNJ"]⟩,
   ⟨["sylotinagri", "sylo"], ["clqEbS"], ["doMBeXJchwHbS"]⟩,
   ⟨["syriac", "syrc"], ["cqYNAcHBCkLK"], ["bdRBBBAAXCGBABbcBANBBAbFAJKZAfMNAcHBCkLKieEAAA"]⟩,
   ⟨["tagalog", "tglg"], ["isMVIA"], ["isMVIAUB"]⟩,
   ⟨["tagbanwa", "tagb"], ["iwEMACAB"], ["iuNBbOMACAB"]⟩,
   ⟨["taile", "tale"], ["jpGbDBE"], ["bdOBEBCAezYJdkVbDBE"]⟩,
   ⟨["taitham", "lana"], ["jxGcKAbCBKFJFN"], []⟩,
   ⟨["taiviet", "tavt"], ["cmoUcOXE"], []⟩,
   ⟨["takri", "takr"], ["ebmEcFFJ"], ["doMBcidLJbptTcFFJ"]⟩,
   ⟨["tamil", "taml"],
     ["ejIBAFCCADCBAAABCBCCCLDECCADBAFANUealGbXMA"],
     ["dnTBQBuTBAFCCADCBAAABCBCCCLDECCADBAFANUgkCAcbbJAboeEAAAcCBetEbXMA"]⟩,
   ⟨["tangsa", "tnsa"], ["fhgQdAAJ"], []⟩,
   ⟨["tangut", "tang"], ["fjiEAbEkfVtRbEdSeK"], ["seAPtAAeqkLAbEkfVtRbEdSeK"]⟩,
   ⟨["telugu", "telu"],
     ["eoEMACAWAPBIACADGBACABBDBJGI"],
     ["dnTBQBzPMACAWAPBIACADGBACABBDBJGIgeUBAAAAWA"]⟩,
   ⟨["thaana", "thaa"], ["cvWbX"], ["chOANBBAcLJkRbXdpgPAJA"]⟩,
   ⟨["thai"], ["fhXcFEbB"], ["baYAZAbQAbSAecKcFEbB"]⟩,
   ⟨["tibetan", "tibt"], ["frScTAbJDbMAbJAOAGDB"], ["frScTAbJDbMAbJAOAGDBmeUD"]⟩,
   ⟨["tifinagh", "tfng"], ["rcYcDGBNA"], ["bdQAAAADYApxZcDGBNA"]⟩,
   ⟨["tirhuta", "tirh"], ["easMcTHJ"], ["dnTBQBhjIALAOAcasYJbpaBcTHJ"]⟩,
   ⟨["todhri", "todr"], ["dvdGbZ"], ["bdPABABAIAAAcVAdtwAbZ"]⟩,
   ⟨["toto"], ["hatKbE"], ["baYAgzsKbE"]⟩,
   ⟨["tulutigalari", "tutg"],
     ["eaiQJAABAAbLAJAABAADAJABHB"],
     ["exAJgbPAAAcasWFhEAbojDJAABAAbLAJAABAADAJABHB"]⟩,
   ⟨["ugaritic", "ugar"], ["duhCbDAA"], []⟩,
   ⟨["vai", "vaii"], ["ckmQlN"], []⟩,
   ⟨["vithkuqi", "vith"], ["dvaEKAOAGABAKAOAGAB"], []⟩,
   ⟨["wancho", "wcho"], ["havGcFEA"], []⟩,
   ⟨["warangciti", "wara"], ["echCdELA"], []⟩,
   ⟨["yezidi", "yezi"], ["dylKbPACBB"], ["chOANACAcLJdwaFbPACBB"]⟩,
   ⟨["yi", "yiii"], ["cipKbsUCcC"], ["seRBEJBHiOAbqbBbsUCcCbiiBE"]⟩,
   ⟨["zanabazarsquare", "zanb"], ["ecuQcT"], []⟩]

end Script

end FleetMonitor.Text
