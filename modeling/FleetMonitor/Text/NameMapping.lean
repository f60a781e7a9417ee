import FleetMonitor.Text.CodeSet
import FleetMonitor.Text.Replacement

/-!
# Characters of internet names

Which characters count as which in the names of the internet: capitals as small
letters, wide forms as plain ones, and so on.  Some count for nothing, and some no name
may hold.
-/

set_option autoImplicit false

namespace FleetMonitor.Text

namespace NameMapping

def replacementPieces : List String :=
  ["cNZAcMcRAAjVHABkLcfGBAAfPEABkZceYCBAjVAABlJceSAAAchQCABlRchQAAAkLAAAfTBACkRyhQyhJAACkTyh",
   "QyhNAACkRyhMyhJBWAcMBGAcMbHAACBAACBAACBAACBAACBAACBAACBAACBAACBAACBAACBAACBAACBAACBAACBA",
   "ACBAACBAACBAACBAACBAACBAACBAACBAACBABpHbzOBABpLCAABpNCAAACBAACCAACBAACBAACBABqFfUAABqHfU",
   "AAACBAACBAACBAACBABbcObtJAAACBAACBAACBAACBAACBAACBAACBAACBAACBAACBAACBAACBAACBAACBAACBAA",
   "CBAACBAACBAACBAACBAACBAACBAACBAAjHAAACBAACBAACBAAuPBAAqEAAACBAACBAApWAAACBBApUAAACCAAgCA",
   "AApOAAApQAAACBAApUAAApYBAAqGAAAqCAAACDAAqGAAAqKBAAqMAAACBAACBAACBAAqUAAACBAAqUCAACBAAqUA",
   "AACBBAqSAAACBAACBAAqWAAACDAACHABbbBvSAABbbDvSAABbbFvSAABbaRDAABbaTDAABbaVDAABbaTHAABbaVH",
   "AABbaXHAAACBAACBAACBAACBAACBAACBAACBAACCAACBAACBAACBAACBAACBAACBAACBAACBAACCABbeNbSAABbe",
   "PbSAABbeRbSAAACBAAhLAAAeHAAACBAACBAACBAACBAACBAACBAACBAACBAACBAACBAACBAACBAACBAACBAACBAA",
   "CBAACBAACBAACBAACBAAjZBAACBAACBAACBAACBAACBAACBAACBAACBAACHAAbfyKAAACBAAmNAAAbfyECAACBAA",
   "oZAAAfIAAAfMAAACBAACBAACBAACBAACdTAAbsXAAAfTAAAbsXAAAbsJAAAeNAAAeLAAAeBAAAbsHAAAbsFbFABc",
   "bNcfCAABcbPcfEAABcbRcfKAABcbTchSAABcbVceWAABcbXcfMCAAjPAAAbwJAAAbvXAAAbvPAAAgBdNBAeXBAAd",
   "RAABePNAAAiYbQAACBAACBAAoJBAACDABcnZcsWDAAcmFAAAiYEABcoTceSAACcoVcfGNAAAcYAAAcdJACAcWBAA",
   "eYBBAeWBQAcMBIAcMbJAAQAAAcHAAAbXAAAZAAALAAARAAAbDAAAbRBAACBAACBAACBAACBAACBAACBAACBAACBA",
   "ACBAACBAACBAACBAAeDAAAdRAAAdPBAAePAAAeXBAACBAAeDAAACCCAjZAPAgEAbFAcMbWAACBAACBAACBAACBAA",
   "CBAACBAACBAACBAACBAACBAACBAACBAACBAACBAACBAACBAACJAACBAACBAACBAACBAACBAACBAACBAACBAACBAA",
   "CBAACBAACBAACBAACBAACBAACBAACBAACBAACBAACBAACBAACBAACBAACBAACBAACBAACBAAbEAAACBAACBAACBA",
   "ACBAACBAACBAACCAACBAACBAACBAACBAACBAACBAACBAACBAACBAACBAACBAACBAACBAACBAACBAACBAACBAACBA",
   "ACBAACBAACBAACBAACBAACBAACBAACBAACBAACBAACBAACBAACBAACBAACBAACBAACBAACBAACBAACBAACBAACBA",
   "ACBAACBAACBAACBAACBAACBAACBAACCbLAdSbWABcPcGjDABfZfYAABdNdKAABgEgJAABdNdGbcHABfDdAAABfDc",
   "YAABfDcWAABeVcMAABeNcCAABeNcAAABdXbIAABdRbAeUABeNcCAABeNcABABdRbAdFABBUCABEIbIABfDcYAABf",
   "DcWAABeVcMCABdXbIjTABeNcCAABeNcAbbXABcAcBeXABcAcBbOABdTbJAABdVTbUAABcCABBjAJABBiGEABBhWE",
   "ABBhMEABBhCMABdDjAJABDCBABHGAABeQdVAACeOeZbEAABeOdXAACeMfBbEHABbFbERABBcWJABBcCEABBbSEAB",
   "BbIEABBYMABdDcWiWbLAvmUBAAvmUFAAvmUbUAAcLbdJFAPdfUAAskPAAAskNAAAsjVABAsjRAAAsjTAAAsjFAAA",
   "shJAAAeaiWAAACGbQAixJCCAixJeEAAvuZAAAvkVAAAvvBBBAvvBAAAusFAHAvvBBAAvvDAAAunRAAAvvFAAAvvD",
   "ABAvvBAAAvuZAAAvwTABAukTAAAfFAAAvwZABAvwXAAAukNABAukLAAAvxBBAAvwXAAAvwVAAAvfVAAAvwVAAAul",
   "PABAeTAAAvxBABAvwVAAAePAAAukBAAAvwZAAAeFACAtlLABAtkDAAAvyNAAAvxXABAvxTABAtmDAAAtlDABAtkV",
   "NAAtcVbIAAurHAAAwdLAAAurFAAAvsTAAAuqVAAAwdNAAAuqTAAAuqRAAAuqLACAuqHAAAdJAAAumNAAAuqHAAAc",
   "VAAAumPAAAuqFAAAuqJADAuqHAAAuqDABAupLAAAvgDABAupDAAAlZABAupFAAAweBACAupBAAAtsNcMAACBAACB",
   "AACBAACBAACBAACBAACBAACBAACBAACBAACBAACBAACBAACBAACBAACBAACBAACBAACBAACBAACBAACBAACBAACB",
   "AACBAACBAACBAACBAACBAACBAACBAACBAACBAACBAACBAACBAACBAACBAACBAACBAACBAACBAACBAACBAACBAACB",
   "AACBAACBAACBAACBAACBAACBAACBAACBAACBAACBAACBAACBAACBAACBAACBAACBAACBAACBAACBAACBAACBAACB",
   "AACBAACBAACBAACBAACBAACBAACFABwxDbuOAAAeLCAAwnTBAACBAACBAACBAACBAACBAACBAACBAACBAACBAACB",
   "AACBAACBAACBAACBAACBAACBAACBAACBAACBAACBAACBAACBAACBAACBAACBAACBAACBAACBAACBAACBAACBAACB",
   "AACBAACBAACBAACBAACBAACBAACBAACBAACBAACBAACBAACBAACBAACBAACBAACJHAPIFAPKHAPIHAPIFAPLAAPB",
   "AAPBAAPBAAPIHAPBAAvaVBAAvaXBAAvaZBAAvbBBAAuyZBAAuzBBAAuzDCABjVurDAABjVurFAABjVurHAABjVur",
   "JAABjVurLAABjVurNAABjVurPAABjVurRAABkLurDAABkLurFAABkLurHAABkLurJAABkLurLAABkLurNAABkLur",
   "PAABkLurRAABiPutPAABiPutRAABiPutTAABiPutVAABiPutXAABiPutZAABiPuuBAABiPuuDAABjFutPAABjFut",
   "RAABjFutTAABjFutVAABjFutXAABjFutZAABjFuuBAABjFuuDAABeXuyNAABeXuyPAABeXuyRAABeXuyTAABeXuy",
   "VAABeXuyXAABeXuyZAABeXuzBAABfNuyNAABfNuyPAABfNuyRAABfNuyTAABfNuyVAABfNuyXAABfNuyZAABfNuz",
   "BCABfBuzTAABvfNQAABvfZbACABBvfDABAPAAAfRAAAvgNAABvgFQAABxyNcgCAAAvfTAABxyRcgCAABxyTcjSAA",
   "CxyVcfGeMAABfZvaBAABvgHEAABvhBWCABBvgJAAAgPAAAvhNAAAgPAAAvhPAABvgZEAACxzTcgCbLAACxzVcgCb",
   "JAACxzXcgCdQDAAvkNEBAPAAAhRAAAviTBACyaZcgEbNAACybBcgEbLAACybDcgEdODAAvjHEBAPAAAiPAAAvhRA",
   "AANAACycFcfGPAACycHcfGNAAAxxLCABjBvaRAABviPbFAABviHbPCABBvkBAAAjVAAAviVAAAjRAAAviVAABvjH",
   "bFAABydLceSAABydNcgEBAAydRAAAydTAAAydVAAAydXAAAydZAAAyeBAAAyeDAAAyeFAAAyeHAAAyeJAAAyeLGA",
   "ABFAByfLciOXAAyhHDABBAAACDAABABBAAACDAAEAByiFABAByiLcfAIABygTAAABygVcHAAByjFcINADcVAAAHA",
   "AykZQAAylBAAAygTCFAylBAAAymFAAAbfIAAAykZABAymRAAAyhLAJAymHAAAynLAAAbeCAAAymFABAynXBAAyjT",
   "AAAyjNAAAyiVAAAyiFAAAwxHAAAyjPADAyjLAAAyjJABAyjFLABykHCdJACysJdVeAAACysLdVfGAAAysJAABymN",
   "fXBACysPdZeYAACysRdZfKAAAxfZBABymZfRABAysRAAAysTAAAysVAAAysXAAAyeHAAAysZAAAytBAAAysXAAAy",
   "sZBAAysZAABytBCCCAytDAAAytFAAAytHCABytLLAACytLbDOAABytNNBAAytFBAAwgFBAAytNBAAyuVAAAylNAB",
   "AyvRBAAyvRABAyvTAAAcEAAAyvJAAAyvHADAutLAAAywDBACywNJbUAAAwiPAAAwjRAAAwjTAAAwiVAAAqCEAAyx",
   "LABAyxNABAyxHGACzcFyhQyhDAACzcHyhQygZAADzcJyhQyhPBAACzcLyhQyhLAACzcLyhOyhLAACzcPyhQyhHAA",
   "CzcPyhOyhHAACzcPyhMyhHAACzcPyhKyhHAACzcXyhQyhFAACzcRyhIyhFAACzdByhQyhBAACzcZyhMyhBAACzcX",
   "yhIyhBAACzcVyhEyhBAABzdJyhQAAAyzDAAByzFAAACyzHAAAAByzJbAAAAyyLAAByyNZAACyyPZAAADyyRZAAAA",
   "ByzTbEAAAyyRAAByyTbDAACyyVbDAAAAyzVABAzaPAAAyzZAAAzaJAABzaLAAACzaNAAAABzaPbAAAAyzRAAByzT",
   "ZAACyzVZAAADyzXZAAAABzaZbEAAAyzXAAByzZbDAACzaBbDAAAAzbBABAzbVAAAzbFDAACFACzgRyhSyhLgGABB",
   "AAACDAABABBAAACDAAjOBAjtMlXIAbbkNAABbblFBAABbblHAAABbblJCAABbblLEAABbblNGAABbblPIAABbblR",
   "KAABbblTMAABbblVOAABbblXQAABbblXDAACbbmTSPAACbbmVURAACbbmXWTAACbbmZYVAACbbnBbAXAACbbnDbC",
   "ZAACbbnFbEbBAACbbnHbGbDAACbbnJbIbFAADbbnLSBNAADbbnNSAPAADbbnPSCRAADbbnRSETAADbbnTSGVAADb",
   "bnVSIXAADbbnXSKZAADbbnZSMbBAADbboBSObDAADbboDSQbFAADbboFUDNUACbbpVeKeHAACbbpXeMeJAACbbpZ",
   "eOeLAACbbqBeQeNAACbbqDeSePAACbbqFeUeRAACbbqHeWeTAACbbqJeYeVAACbbqLfAeXAACbbqNfCeZAACbbqP",
   "fEfBAACbbqRfGfDAACbbqTfIfFAACbbqVfKfHAACbbqXfMfJAACbbqZfOfLAACbbrBfQfNAACbbrDfSfPAACbbrF",
   "fUfRAACbbrHfWfTAACbbrJfYfVAACbbrLgAfXAACbbrNgCfZAACbbrPgEgBAACbbrRgGgDAACbbrTgIgFAZAbbnL",
   "AZAbbpLAAAbbvFbyNADfzDAAAdZACbfzNAGAABbfzJAAACbfzLAAdXABCbeaRlFbVAdSbWAACBAAbfuJAAAlhJAA",
   "AbftDCAACBAACBAACBAAbfxFAAAbfuVAAAbfxLAAAbfxJBAACCAACGAAbhjVAAAbhiZABAbfzXAAACBAACBAACBA",
   "ACBAACBAACBAACBAACBAACBAACBAACBAACBAACBAACBAACBAACBAACBAACBAACBAACBAACBAACBAACBAACBAACBA",
   "ACBAACBAACBAACBAACBAACBAACBAACBAACBAACBAACBAACBAACBAACBAACBAACBAACBAACBAACBAACBAACBAACBA",
   "ACBAACBAACIAACBAACEAACeUAAbBlRAAbuiUdFAAdhiUMAAxmMAAAxpMAAAxqMAAAxrCAAAxtAAAAxwIAAAxwUAA",
   "AxyGAAAyaEAAAzxSAAAbaaOAAAbaaYAAAbacQAAAbaeCAAAbafQAAAbajQAAAbalEAAAbalYAAAbaxUAAAbbeYAA",
   "AbbhAAAAbbhIAAAbbjOAAAbbkEAAAbbmEAAAbbnCAAAbboYAAAbbsWAAAbbuEAAAbbwEAAAbecGAAAbehSAAAbfr",
   "AAAAbfsSAAAbftGAAAbfuAAAAbfvIAAAbgbCAAAbhlSAAAbhpIAAAbhyMAAAbiaEAAAbibOAAAbidEAAAbihGAAA",
   "bihKAAAbjjEAAAbjjWAAAbjkSAAAbjlQAAAbjuMAAAbjvAAAAbjvIAAAbkeGAAAbkeYAAAbkfWAAAbkgKAAAbklA",
   "AAAbkmGAAAbknOAAAbktQAAAbmmGAAAbmpSAAAbmrGAAAbowCAAAbowKAAAbpcSAAAbpdWAAAbpeUAAAbpgIAAAb",
   "pjGAAAbpjOAAAbqeAAAAbqfUAAAbqiEAAAbtiGAAAbtnGAAAbtoYAAAbttIAAAbtvCAAAbtvSAAAbtwEAAAbuaCA",
   "AAbuaKAAAbucUAAAbxhSAAAbyqAAAAbyqWAAAbyrEAAAbyrKAAAbyrYAAAbytGAAAbytIAAAbyzMAAAbzqAAAAbz",
   "qIAAAcaqIAAAcarAAAAcauUAAAcavGAAAcavWAAAcawKAAAcbdIAAAcbdUAAAcbvGAAAcbvSAAAcbzKAAAccaQAA",
   "AcceEAAAccwIAAAccwUAAAccyAAAAcdxCAAAcegSAAAcehCAAAcevAAAAcfbQAAAcffCAAAcgiCAAAcgsGAAAcik",
   "IAAAcimIAAAciqQAAAciuMAAAcizQAAAcjaKAAAcjaUAAAcjdGAAAcjjAAAAcjjSAAAckkGAAAckkSAAAcklIAAA",
   "cklYAAAcknCAAAckoEAAAckoKAAAckuKAAAckuQAAAckvAAAAcnsKAAAcnuQAAAcpeQAAAcpfMAAAcphEAAAcqcW",
   "AAAcqdUAAAcqjEAAAcqmQAAAcseEAAAcsfGAAAcsgIAAAcsiYAAAcslSAAActaYAAActbUAAActgWAAActzWAAAc",
   "ucEAAAcusEAAAcutSAAAcuuAAAAcvkWAAAcvyYAAAcwiMAAAcwiWAAAcwjEAAAczcYAAAczdOAAAczpMAAAdabGA",
   "AAdabKAAAdaeYAAAdamYAAAdanWAAAdaoCAAAdaoOAAAdawAAAAdayOAAAdayYAAAdazYAAAdbmSAAAdbqOAAAdb",
   "qUAAAdceUAAAdceYAAAdcgIAAAdczQAAAdddGAAAdddSAAAddjAAAAddjSAAAddjWAAAddkOAAAddmUAAAderCAA",
   "AdfvUAAAdfwMAAAdfzIAAAdgaYAAAdgbMAAAdgcEAAAdgcKAAAdgfKAAAdgfQAAAdggWAAAdghEAAAdgiCAAAdgk",
   "CAAAdglEAAAdglSAAAdgqEAAAdgrGAAAdgrMbQAAbkgTBAAbkfVbZAAcTBAAbanYABAbaoCdSABbksRbksOAABbk",
   "sTbksQCABbTEdRABfVbQbXBAyjXAAAxwZAAAyjZABAxwZACAykDAFAxxBAAAyjBACAykRAAAyiVAJAykTAUAyeTB",
   "BAymJABAxyTAAAxyNAAAxyLAAAxyDAAAxxXAAAxxVAAAymLAAAxxRAAAxxPABAymPAAAymNABAymLAAAymFAAAym",
   "DAEAymBAAAylXAAAylRAAAykZAAAykNAAAykFABAxxPACAyjPABAygJAAAygFABAyfPAAAyfNAAAyeVAAAyeRDAA",
   "vnWAAAvyOAAAvoKAAAbcgAAAAvoIAAAvqYAAAvoGAAAbzfEAAAvuCAAAvpCAAAvnEAAAbdyUAAAbclWAAAwbEdSA",
   "CbltNmtSmtPAACbltPmtWmtTAACbltRmtYmtVAACbltTmuCmtZAACbltVmuEmuBAACbltXmuGmuDAACbltZmuKmu",
   "HAACbluBmuOmuLAACbluDmuQmuNAACbluFmuUmuRAACbluHmuWmuTAACbluJmuYmuVAACbluLmvAmuXAACbluNmv",
   "CmuZAACbluPfaeAfadXAACbluRfdqMfdqJAACbluTffjSffjPAACbluVfiwEfiwBAACbluXfkpKfkpHAACbluZfm",
   "iQfmiNAACblvBfpvCfpuZAACblvDfthOfthLAACblvFfvaUfvaRAACblvHfynGfynDAACblvJgagMgagJAACblvL",
   "gbzSgbzPAACblvNgdsYgdsVAACblvPgfmEgfmBAACblvRfwcUfwcRAADblvTftyUbkYfvjPAADblvVftyUmpKggo",
   "BBACblvZcgyYcgyVAACblwBchjSchjPAACblwDcgzQcgzNAACblwFcnrIcnrFAACblwHchkIchkFAACblwJcjoKc",
   "joHAACblwLcgzEcgzBAACblwNcjoGcjoDAACblwPchgCchfZAACblwRckyKckyHAACblwTczxWczxTAACblwVdha",
   "SdhaPAACblwXddvSddvPAACblwZdaaIdaaFAACblxBegiKegiHAACblxDcnwOcnwLAACblxFczbMczbJAACblxHd",
   "auEdauBAACblxJczxYczxVAACblxLdnsMdnsJAACblxNcloCclnZAACblxPdipEdipBAACblxReckGeckDAACblx",
   "TdnuWdnuTAACblxVcknOcknLAACblxXchqKchqHAACblxZclwQclwNAACblyBcrcUcrcRAACblyDdlyCdlxZAACb",
   "lyFchsSchsPAACblyHecnEecnBAACblyJckzWckzTAACblyLdnwCdnvZAACblyNchtYchtVAACblyPduhGduhDAA",
   "CblyRduhYduhVAAAbaoCAAAbhmSAAAbmvIAAAcdnCIACbluDIbDAABblyZBAABblzBAAABblzDCAABblzFEAABbl",
   "zHGAABblzJIAABblzLKAABblzNMAABblzPOAABblzPFAABblzRDAABblzTBAABblzVAAABblzXCAABblzZEAAAzh",
   "FABAzhDACAzhBAAAzgZABAzgXAEAzgVAAAdocAAAAdroKAAAdthOAAAdwtYAAAdynCAAAeagGAAAedsQAAAehfAA",
   "AAeiyEAAAemkOAAAeodSAAAepwWAAAerqAAAAetjEAABemlKxtFAABejzQbgHAAAeigIBAAuvOAAAvgGAAAuwCAA",
   "AbbnSAAAvgQAAAxkQAAAuvIAAAxkIAAAvcCAAAyuIAAAbntSAAAbuwMAAAbrrKAAAbnvYAAAcudYAAAbbsAAAAbm",
   "wWAAAbopMAAAbntEAAAcbnQAAAzjEAAAbwkEAAAcqfEAAAcbpSAAAyiIAAAcbzAAAAbylUAAAbdkYAAActbEAAAx",
   "dQAAAywIAAAbsdUAAAcyuSAAAvoAAAAxlUAAAbqzOAAAutOAAAuwEAAAutMAAAbgtQAAAzfQAAAyrKAAAbezYAAA",
   "bewCAAAbzrIAAAvlWAAAcqgGAAAysWAAAbdcQAABbmgHGAABbmgJIAABbmgLKAABbmgNMAABbmgNHAABbmgPFAAB",
   "bmgRDAABbmgTBAABbmgVAAABbmgXCAABbmgZEAABbmhBGAABbmhDIAABbmhFKAABbmhFJAABbmhPczxEAABbmhPc",
   "zxCAABbmhPczxAAABbmhPczwYAABbmhPczwWAABbmhPczwUAABbmhPczwSAABbmhPczwQAABbmhPczwOAACbmiHB",
   "czxGAACbmiJAczxEAACbmiLCczxCAABbmeHBAACbmePbAVAABbmeRbIAACbmeFQbFAAAbqXAAAbqVAAAbqTAAAbq",
   "RABAbqPAAAbqNAAAbqLAAAbqJAAAbqHAAAbqFAAAbqDAAAbqBAAAbpZAAAbpXAAAbpVAAAbpTAAAbpPAAAbpNAAA",
   "bpLAFAbpJAAAbpFAAAbpBAAAboXAAAboTAEAboPAAAboNAAAboLAFAboJADAboHAABvdIehKAADbuPdQdIdZAADb",
   "uRfQbRdZAADbuTgGbXeHAACbuVgYbHAADbuTdAdCfDAACbuVgCdVAACbuTGfSAAEbuRbITfYdXAADbuTgMgFgGAA",
   "CbuRfQeLAACbuTgIcDAACbuTNfKAADbuVeUcXKAADbuXfCFbKAACbuXfAMAACbuZfMbPAABbuXDAACbuZcGdUAAD",
   "bvDeIKbKAADbvDeSdHeQAABbvHeYAAEbvJeYeReKRAAFbvLeYXcCdZcSAAEbvNeYEdJKAACbvJeKRAAEbvLeKRbV",
   "dIAAEbvPeQdPbVfQAADbvReUbEdPAACbvPfUfDAACbvNeIcNAACbvPfQcJAADbvNbHWeQAAEbvPeUdVeOcDAADbv",
   "NdYSfDAACbvHeIdVAACbvJeIdHAACbvBeQfDAABbuPbFAABbuNcQAABbuRdIAABbuPIAACbuJVKAACbuJdHcMAAE",
   "buHdIeZeIdHAACbuJdIeHAADbuNdKbFBAAEbuHdVbUbEcSAACbuJcVeQAABbuLcNAABbuPbWAAEbuNdZfOcXMAAD",
   "buPdVgWdZAAEbuPbLXbFfGAACbuTbOUAAEbuPdDbGeSbHAABbuNcFAACbuPbDOAACbuVbMcZAACbuTbYeLAACbuV",
   "cQfFAACbuZcSeRAADbuTeJgCdHAACbuXbEcRAABbvBbWAACbuZbSdFAACbvFcObHAACbvHcORAADbvDeLWeUAACb",
   "vFeLfMAACbvHcBYAACbvJbAePAAEbvLbQePdSYAADbvLdReUMAABbvNWAAEbvPWbZdKbHAABbvNeBAADbvPeBcEd",
   "IAADbvRcCdZcSAACbvNbWdXAACbvPbWbHAACbvNfFgGAADbvHcZKcSAABbvJBAACbvJbTdCAADbvLbIcXbQAABbv",
   "LXAAEbvNOdHbRfAAACbvJdJKAABbmtJdhgCAABbmtJdhgAAABbmtJdhfYAABbmtJdhfWAABbmtJdhfUAABbmtJdh",
   "fSAABbmtJdhfQAABbmtJdhfOAABbmtJdhfMAABbmtJdhfKAACbmuBBdhgCAACbmuDAdhgAAACbmuFCdhfYAACbmu",
   "HEdhfWAACbmuJGdhfUAACbmuLIdhfSAACbmuNKdhfQAACbmuPMdhfOAACbmuROdhfMAACbmuTQdhfKAACbmuTDdh",
   "gCAACbmuVBdhgAAACbmuXAdhfYAACbmuZCdhfWAACbmvBEdhfUAACbmqZQbDAABbmrJFAABbmrRbOAACbmrRBbIA",
   "ABbmqTOAABbmqTZAABbmrTSAACbmrVSeNAACbmrXSeLAABbmrPYAABbgoEctEAABbmkGnjDAABbcnSnvCAABbmhS",
   "fbMAADbnxEgxHmcFbfxWAABbmrNbDAABbmrTZAABbkeTcoBAABbmrZXAABbmsFTAABbmsHRAABbmsFVAABbmsTJA",
   "ACbmtDDWAADbmsPPDWAABbmsHTAABbmsNPAABbkfNcnRAABbkfPcnPAABbmsVLAABbmtBHAABbmtJbKAACbmtFFb",
   "KAACbmtDJbKAACbmtRCbKAACbmsTXbKAABbkgFcnFAABbmtLBAABbmuFQAABbmtTCAABbmuFOAABbmtRBAABbkgR",
   "cnDAABbmtXAAABbmuTUAABbmuFEAACbmuDAeNAACbmuZUeNAABbmuHeNAACbmuNEeNAACbmuLAeLAACbmvHUeLAA",
   "BbmuPeLAACbmuVEeLAACbmuTzmUzmHAADbmuVzmUzmHeZAABbmuRbDAACbmvDKbDAACbmvBGbDAACbmvPSbDAACb",
   "muVbHGAAEbmuXbHGznMzmHAAFbmuZbHGznMzmHeZAABbmvFGAABbmvLKAABbkiLcmRAABbmvRMAABbmvNMAABbmv",
   "TQAABbkiTcmLAABbmvZSAABbmwFWAABbmwDSAABbmvZOAABbmwFSAABbkjFcmJAABbmwLUAABbmwRYAABbmwPUAA",
   "BbmwVcoIAABbmwTcoEBABbmxTbEAABbmxTAAABbmxVCAADbmxXznOzmXHBABbmxZDAABbmxVbKAABbmxVNAABbmx",
   "XQAABbmxXKAABbmxVAAABbmxXEAABbmxZSAABbmxZCAABbmyBEAACbmyDGPAABbmyFYAABbmyFVAACbmyHHGAACb",
   "myJEFAABbmyFPBACbmyJAFAABbmyLEAABbmyHBAABbmyJGAABbmyDbPAACbmyHzmCzmTAACbmzZznSzmTAABbndT",
   "czaUAABbndTczaSAABbndTczaQAABbndTczaOAABbndTczaMAABbndTczaKAABbndTczaIAABbndTczaGAABbndT",
   "czaEAACbneLBczaWAACbneNAczaUAACbnePCczaSAACbneREczaQAACbneTGczaOAACbneVIczaMAACbneXKczaK",
   "AACbneZMczaIAACbnfBOczaGAACbnfDQczaEAACbnfDDczaWAACbnfFBczaUAACbnfHAczaSAACbnfJCczaQAACb",
   "nfLEczaOAACbnfNGczaMAACbnfPIczaKAACbnfRKczaIAACbnfTMczaGAACbnfVOczaEAACbnfVFczaWAACbnfXD",
   "czaUAACbnbZLWbrgYAACBAACBAACBAACBAACBAACBAACBAACBAACBAACBAACBAACBAACBAACBAACBAACBAACBAAC",
   "BAACBAACBAACBAACBAACTAACBAACBAACBAACBAACBAACBAACBAACBAACBAACBAACBAACBAACBAACBAAesyLAAAes",
   "yJfCAACBAACBAACBAACBAACBAACBAACDAACBAACBAACBAACBAACBAACBAACBAACBAACBAACBAACBAACBAACBAACB",
   "AACBAACBAACBAACBAACBAACBAACBAACBAACBAACBAACBAACBAACBAACBAACBAACBAACBAABIAACBAACBAAeanVAA",
   "ACBAACBAACBAACBAACEAACBAAevcHCAACBAACDAACBAACBAACBAACBAACBAACBAACBAACBAACBAACBAAeveLAAAe",
   "vfHAAAeveZAAAeveFAAAeveLBAAevaPAAAevcLAAAevaVAAActKAAACBAACBAACBAACBAACBAACBAACBAACBAAdR",
   "AAAeveJAAAearVAAACBAACBAAevhDAAACBAACBAACBAACBAACBAACBAACBAACBAAevxXUAAewwHAAAewxPAAAewx",
   "LAAAewwRAAACCAAewiZAAAewfRbhIAAdeVAAAcXAAAexyZAAAZJAAexxFGdBAekzNbdgQAAdeiXAAAegqBAAAdcl",
   "RAAAddzHAAAearLAAAezjXAAAevbTAAAcpsVAAAcpsXAAAeqzFAAAdaeRAAAetvZAAAeraDAAAeklHAAAduyRAAA",
   "dobJAAAdiyZAAAdhvXAAAdgxNAAAdbeDAAAeejJAAAecaLAAAdzeVAAAdwxLAAAdknDAAAdanTAAAcubXAAAezfL",
   "AAAevmBAAAedqFAAAdygRAAAdjbNAAAcqyDAAAeoaJAAAdzyBAAAdjjFAAAdgqPAAAejwXAAAdmjJAAAdhpVAAAe",
   "mxVAAAegqLAAAebvZAAAdxqJAAAdbbFAAAeymVAAAewvTAAAevzDAAAeikTAAAedvNAAAdyjBAAAdurVAAAdnuRA",
   "AAdjgFAAAdizRAAAddgPAAAcwgHAAActaXAAAcrcXAAAdtmBAAAdstLAAAdpqFAAAdkyZAAAczlDAAAcqtDAAAdf",
   "qJAAAermJAAAemvLAAAdqpJAAAdnmJAAAdyeHAAAdtiFAAAdefBAAAcwmDAAAernNAAAeovXAAAeemJAAAebqBAA",
   "AeasJAAAdqaHAAAdpgBAAAcwzZAAAewcTAAAdnmLAAAewvVAAAewxDAAAdsjJAAAdppXAAAdkxXAAAcwxJAAAdff",
   "FAAAekaPAAAeeoXAAAdfpLAAAezqFAAAepgXAAAemcXAAAdxjVAAAdvyHAAAevyTAAAdtgRAAAeymTAAAemlLAAA",
   "ezuHAAAecmXAAAeibHAAAdqdJAAAevmDAAAerzNAAAduuHAAAdksVAAAdfxHAAAediPAAAdccNAAAecsXAAAejyV",
   "AAAdluRAAAejmNAAAdwaRAAAezjDAAAexhLAAAexaDAAAefuVAAAdqjFAAAdmeJAAAdfvHAAAdanTAAAewdNAAAe",
   "vdZAAAerfVAAAencDAAAehxJAAAeaeDAAAdtfPAAAcxqFAAAcuaZAAAcqwVAAAcqsRAAAewlHAAAeheFAAAedpXA",
   "AAdckRAAAenmHAAAeldDAAAekuPAAAeivLAAAeawBAAAdzfVAAAdwtXAAAdsuNAAAdpqPAAAdntVAAAdcqDAAAdk",
   "jLAAAdbwVAAAczmVAAAewwVAAAewmDAAAeuwVAAAdzqRAAAdhmPAAAdgbDAAAenhHAAAemkHAAAejsZAAAednPAA",
   "AdqzNAAAdxqPAAAeziTAAAetfRAAAepmRAAAeocVAAAemhZAAAdxmJAAAdwyJAAAdomBAAAdnyXAAAdajXAAAcwu",
   "HAAAcwoBAAAcvyDAAAeywXAAAdszFAAAdauFAAAcwzNAAAeltVAAAezrJAAAexxPAAAepnNAAAephJAAAeifHAAA",
   "eewNAAAdyzBAAAdvpLAAAdklNAAAdbtDAAAcqiNAAAehnLAAAcxlFAAAewrJAAAeguZAAAeglVAAAeclLAAAebkV",
   "AAAdxiBAAAdwiHAAAdtzXAAAdqmNAAAcvuXAAAexnZAAAekwDAAAcxgNAAAeymZAAAeosLAAAebzJAAAdcuRAAAe",
   "mwNAAAeloRAAAegkJAAAdxtFAAAcxgDAAAexaLAAAevpDAAAephBAAAehyNAAAehaJAAAefzVAAAecuLAAAdxkDA",
   "AAdvzPAAAdosVAAAdhrBAAAdhpTAAAdawFAAAcxaDAAAewgDAAAeblBAAAevpFAAAdzcLAAAdwzTAAAdjvNAAAcx",
   "fNAAAcsxHAAAcreLAAAegwFAAAeceDAAAdmyDAAAdsiHAAAdsbVAAAdqzLAAAdykXAAAeabJAAAdfuTAAAezsBAA",
   "AdlzBAAAexbTAAAexfTAAAenrHAAAeknDAAAdquZAAAeqbDAAAecsRAAAehpBAAAdcxBAAAdidRAAAcxnZAAAdhf",
   "HAAAenoPAAAexvZAAAeulLCAAesmLBAAehuXCAAexkNAAAdyeXAAAdvlPAAAdtpNAAAdtmZAAAdtmNAAAdtjJAAA",
   "cwvBAAAdqyVAAAdorXBAAdjxJBAAdgfBCAAdcfXAAAdbqVDAAcvqRAAAcvpTAAAcvmLAAAcsaZAAAdbtVAAAcxiT",
   "AAAezdRAAAeyfRAAAexxXAAAewuTAAAewsTAAAewkLAAAeurHAAAeujHAAAeubVAAAesrPAAAesjRAAAepoFAAAe",
   "pnNAAAemjXAAAeltRAAAelqVAAAeljFAAAeivBAAAeijVAAAehwLAAAegkBAAAecqTAAAeceHAAAebkBAAAdzqXA",
   "AAdzcLAAAdxpVAAAdugPAAAdttJAAAdtsPAAAdtsTAAAdtsFAAAdtrVAAAdtrJABAdtnTAAAdtaDAAAdsvFAAAdr",
   "wTAAAdqfLAAAdqdXAAAdpzRAAAdpcHAAAdorBAAAdnfPAAAdmuXAAAdmuZAAAdlkHAAAdhvJAAAdhlDAAAdgjHAA",
   "AdgfBAAAdezPAAAdevPAAAdcuXAAAdckZAAAcxjTAAAcwnZAAAcwjLAAAempVAAAjovCAAAdndPCAAfamTAAAexu",
   "TAAAeyaTAAAezmJAAAeydPAAAexzDAAAexaBAAAewwFAAAeuwJAAAevbZAAAeuwVAAAeurHAAAesuTAAAesnZAAA",
   "escXAAAesbTAAAerhBAAAeqrXAAAenxVAAAenxJAAAenmJAAAenhFAAAemkHAAAembHAAAemgTAAAelwNAAAemaD",
   "AAAeloZAAAeljZAAAekfHAAAejyPAAAejuNAAAejaPAAAeieRAAAehsFAAAehrZAAAehnNAAAeekDAAAeefFAAAe",
   "dbFAAAebvTAAAebxBAAAebqLAAAeaxDAAAdzxJAAAdveXAAAdziFAAAdyyXAAAdypNAAAdxqLAAAdxfBAAAdxbBA",
   "AAdwjTAAAdwjRAAAdvwPAAAdvvJAAAdvtNAAAdvmZAAAdvnVAAAdujLAAAdsyFAAAdsdLAAAdrpDAAAdqxZAAAdq",
   "mHAAAdpmZAAAdoxTAAAdmkVAAAdlyVAAAdjhFAAAdhyFAAAdhsZAAAdhrVAAAdgvBAAAdgqTAAAdguHAAAdgqFAA",
   "AdgqNAAAdgrXAAAdgmDAAAdgfZAAAdfcRAAAddlRAAAdcnPAAAdbqZAAAdbaBAAAcxyXAAAcxrBAAAcxiHAAAcwy",
   "DAAAcwvLAAAcwuPAAAcwqZAAAcunDAAAcrbVAAAiuiWAAAiuiIAAAjdcAAAAfovHAAAfllDAAAfliRAAAkadKAAA",
   "kicQAAAlhwIAAAcrjLAAAcrdTbMABhhuXAAABhhuZGAABhhvBMAAChhvDAGAAChhvFAMAABhhuHCAABhhuJCMABh",
   "eaVEAABheaXbDAABheaZRAABheaHPAABhebDNFABhdtVcVBABhdsBeNAAAhdtJAAAhduVABAhduRACAhduFAAAhd",
   "tLAAAhdtJAAAhicPAABhdtPdBAABhdtRcZAAChdtTdLKAAChdtVdLMAABhdvVbXAABhdvXbVAABhdvZbNAABhdvZ",
   "bPAABhdvZbRAABhdvZbTAABhdvZbVAABhdvZbXAABhdvZbZBABhdvZcDAABhdvZcFAABhdvZcHAABhdvZcJAABhd",
   "vZcLBABhdvZcPBABhdvZcTAABhdvZcVBABhdvZcZAABhdvZdBBABhdvZdFAABhdvZdHAABhdvZdJAABhdvZdLAAB",
   "hdvZdNAABhdxRcDAABhdyBbJAABhdxJcDAABhdwTcVAABhdyJYAAAhdmBAAAhdmDAAAhdlLAAAhdlNAAAhdlPAAA",
   "hdlRAAAhdlNAAAhdlPAAAhdlRAAAhdlTAAAhdlRAAAhdlTAAAhdlVAAAhdlXAAAhdmLAAAhdmNAAAhdmPAAAhdmR",
   "AAAhdmJAAAhdmLAAAhdmNAAAhdmPAAAhdnDAAAhdnFAAAhdnHAAAhdnJAAAhdkDAAAhdkFAAAhdkHAAAhdkJAAAh",
   "dkHAAAhdkJAAAhdkLAAAhdkNAAAhdnFAAAhdnHAAAhdnJAAAhdnLAAAhdnPAAAhdnRAAAhdnTAAAhdnVAAAhdnRA",
   "AAhdnTAAAhdnVABAhdnXAAAhdnZAAAhdoBAAAhdoDAAAhdnTAAAhdnVAAAhdnZAAAhdoBAAAhdnZAAAhdoBAAAhd",
   "oPAAAhdoRAAAhdnNAAAhdnPAAAhdoFAAAhdoHAAAhdmNAAAhdmPAAAhdmRAAAhdmTAAAhdmJAAAhdmLAAAhdmNAA",
   "AhdmPAAAhdmJAAAhdmLAAAhdmNAAAhdmPAAAhdmVAAAhdmXAAAhdmZAAAhdnBAAAhdmLABAhdmNAAAhdmPAAAhdm",
   "RAAAhdmTAAAhdmLABAhdmNAAAhdmPAAAhdmRAAAhdmTAAAhdnBAAAhdnDAAAhdnFAAAhdnHAAAhdlVABAhdlXAAA",
   "hdlZbHAAhdrNAAAhdrPAAAhdrRAAAhdrTAAAhdpVAAAhdpXAAAhdqBAAAhdqDAAAhdqBAAAhdqDAABhdqHgJAAAh",
   "dqBAAAhdqDAAAhdqRAAAhdqTAAAhdqNAAAhdqPAAAhdqDAAAhdqFAAAhdqHAAAhdqJAAAheaVAAAheaXAABhedRC",
   "AABhedTCAABhedVnMAABhedXnMAABhedZcQAABheeBcQAABheeDmKAABheeFmKAABheeHmIAABheeJmIAABheeLm",
   "MAABheeNmMAABheePnCAABheeRnCAABheeTnCAABheeVcSAABheeXcSAABheeZcSAAAhdsHAAAhdsJAAAhdsLAAA",
   "hdsNAABhefJMAABhefLOAABhefNcKAABhefPcSAABhefRcUAABhefPIAABhefRKAABhefTMAABhefVcGAABhefXc",
   "OAABhefZcQAABhefXEAABhefZGAABhegBIAABhegDcCAABhegFcKAABhegHcMAABhegHCAABhegJcAAABhegLcIA",
   "ABhegNcKAABhegNCAABhegPbYAABhegPBAABhegRbWAABhegRDAABhegTBAABhegVbUAABhegNNAABhegPLAABhe",
   "gRJAABhegTbKAABhegRPAABhegTbGAABhegTTAABhegVRAABhegXPAABhegZbEAABhegZTAABhehBbCAABhehBbA",
   "AABhehBZAABhehDYAABhehDbBAABhehFWAABhegTbPAABhegVbNAABhegXbLAABhegZIAABhehBQAABhehDSAABh",
   "ehDbPAABhehFGAABhehHOAABhehJQAABhehJcDAABhehLbTAABhehNbRAABhehPbPAABhehRCAABhehTEAABhehV",
   "MAABhehXOAABhehXbVAABhehZbTAABheiBbRAABheiDCAABheiFKAABheiHMAABheiHbXAABheiJbVAABheiLbTA",
   "ABheiNAAABheiPIAABheiRKAABheiRbZAABheiTbXAABheiVbVAABheiXBAABheiZGAABhejBIAABhejBcBAABhe",
   "jDDAABhejFEAABhejHGAABhejDcHAABhejFcFAABhejHcDAABhejJJAABhejLBAABhejNAAABhelPeYAABhelPeW",
   "AABhejVdAAAChjbFerOKAAChjbHerQIAAChjbJerSGAAChjbLerUEAAChjbNerWCAAChjbPerYcKAABhenBWAABh",
   "enDYAABhenFcKAABhenHcMAABhenJcSAABhenLcUAABhenJSAABhenLUAABhenNcGAABhenPcIAABhenRcOAABhe",
   "nTcQAABhenROAABhenTQAABhenVcCAABhenXcEAABhenZcKAABheoBcMAABheoBMAABheoDOAABheoFcAAABheoH",
   "cCAABheoJcIAABheoLcKAABhemVQAABhemXSAABhemXOAABhemZQAABhemZcDAABhenBCAABhenDEAABhenFMAAB",
   "henHOAABhenHCAABhenJKAABhenLMAABhenLcHAABhenNAAABhenNbPAABhenPbNAABhenRBAABhenTAAABhenVG",
   "AABhenXIAABhenTdAAABhenTbXAABhenVbVAABhenXJAABhenZHAABheoBBAABheoDAAABheqZMAABherBOAABhe",
   "rDQAABherFcKAABherHcOAABherFIAABherHKAABherJMAABherLcGAABherNcKAABherLEAABherNGAABherPIA",
   "ABherRcCAABherTcGAABherTcAAABherTCAABherVbYAABherVBAABherXbWAABherXDAABherZbUAABherRNAAB",
   "herTLAABherVJAABherXbKAABherVPAABherXNAABherZbGAABherZTAABhesBRAABhesDPAABhesFbEAABhesFT",
   "AABhesFbAAABhesFZAABhesHYAABhesHbBAABhesJWAABherXbPAABherZbNAABhesBbLAABhesDIAABhesDbPAA",
   "BhesFGAABhesFbTAABhesHbRAABhesJbPAABhesLCAABhesNEAABhesNbVAABhesPbTAABhesRbRAABhesTCAABh",
   "esVGAABhesVbXAABhesXbVAABhesZbTAABhetBAAABhetBbZAABhetDbXAABhetFbVAABhetHBAABhetJCAABhet",
   "JcBAABhetLDAABhetNdEAABhetJcHAABhetLcFAABhetNcDAABhetPJAABhetRFAABhewNcKAABhewPcOAABhewN",
   "cGAABhewPcKAABhewNcCAABhewPcGAABhewPcAAABhewRcEAABhewDbKAABhewFbOAABhewFbIAABhewHbMAABhe",
   "vFCAABhevHEAABhevHCAABhevFBAABhevHCAABhevBJAABhevDFAAChevZbCGAAChewBbEEAAChewDbGCAABhewX",
   "bKAABhewZbMAABhewXbGAABhewZbIAABhewZbEAABhexBbGAABhexRbSAABhexTbUAABhexTbQAABhexVbSAABhe",
   "yLcEAABheyNcGAABheyRcGAABheyTcIAABheyRcCAABheyTcEAABheyHbOAABheyJbQAABheyJbMAABheyLbOAAB",
   "heyRPAABheyTNAABheyVLAABheyXbIAABheyZFAABhezDDAABhezBHAABhezBJAABhezBbKAABhezDbMAABhezBb",
   "GAABhezDbIAABhezDbEAABhezFbGAABhezVbSAABhezXbUAABhezXbQAABhezZbSAABhfaPcEAABhfaRcGAABhfa",
   "VcGAABhfaXcIAABhfaVcCAABhfaXcEAABhfaLbOAABhfaNbQAABhfaNbMAABhfaPbOAABhfaVPAABhfaXNAABhfa",
   "ZLAABhfbBbIAABhfbDFAABhfbHDAABhfbFHAABhfbFJAABhfbLPAABhfbNNAABhfbPLAABhfbRbIAABhfbVbOAAB",
   "hfbVbMAABhfbRbCAABhfcBNAABhfcDLAABhfcFJAABhfcFPAABhfcHNAABhfcJLAABhfcFbCAABhfcFbAAABhfdP",
   "cUAABhfdRcUSAChfeXEbYAAChfeZGBAAChffBGBAAChffDGbWAAChffFIbUAAChffHcCbXAAChffJcCbVAAChffL",
   "cCbTAAChffJbYbVAAChffLbYbVAAChffLbWKAAChffNbWIAAChffDLBAAChffFNCAAChffHNcGAAChffJbKbVAAC",
   "hffLbKbVAAChffNbKbXAAChffPbKAAAChffRbKAAAChffPPAAAChffRPAAAChffTbGAAAChffXNbWAAChffZNbWA",
   "AChfgBPcIAAChfgDbIbTAAChfgFbIbTAAChfgHbIAAAChfgJbIAAAChfgHRcEAAChfgJPbUAAChfgLPbUAAChfgL",
   "bCbVAAChfgNbCbVAAChfgPbCAAAChfgRbCKAAChfgPZbYAAChfgRYAAAChfgTYAAAChfgVYIAAChfgVWAAAChfgX",
   "WKAAChfgZWIAAChfgNbLbUAAChfgPbLbUAAChfgPGbVAAChfgRGAAAChfgPbTbWAAChfgRbTcGAAChfgTbTcEAAC",
   "hfgVbVAAAChfgXbVAAAChfgZbRbUAAChfhBbRbUAAChfhDCbVAAChfhFCbVAAChfhFbVBAAChfhHbVbWAAChfhJb",
   "VcGAAChfhLbXCAAChfhNbXbYAAChfhPbTDAAChfhRbTbUCAChfhXbXEAAChfhVDbXAAChfhXDAAAChfiBbXbWAAC",
   "hfiDbXcEAAChfiFbZbYAAChfiHbZbYAAChfiJbZcGAAChfiLBKAAChfiNBIAAChfiHJAAAChfiJJAAAChflBMcEA",
   "AChfkZEcIAAChflBEcGAAChflDIcEAAChflFIcCAAChflHcCKAAChflJcCIAAChflHbYKAAChflJCcEAAChflLbY",
   "IAAChfkZJcCAAChfkXPcGAAChflBNcGAAChfkZRcGAAChfjZbVcIAAChfkBCKAAChfjRcFcGAAChfjTcHcIAAChf",
   "jVJKAAChfkHAKAAChfkPGKAAChfkJbXcGAAChfkTGbVAAChfkRbTbWAAChflPYKAAChfkXEKAAChfkTbZCAAChfk",
   "XbTcEAAChflBbVbYAAChflFEAAAChflFbVbYAAChflDbZCAAChfnFCcGAAChfnFBcIAAChflLbXcIAAChflVIKAA",
   "ChfnVKcGAAChflVEAAAChfmRZbYAAChfnBbGAAAChfnHJcEAAChflXbZcIbOAChfqJbEkYAAChfpLEkYAADhfrPc",
   "GAGAADhfrRcEcBSAADhfpLbVbWbRAADhfqTbEVYAADhfrDEbQHAADhfqPWMFAADhfpNbPbICAAChfrBbEKAARhfr",
   "DbEKerHeoScGAGerDeqCWMFerDerGbPbICAAHhfrXbWeqXepCbWcFcGGAADhfrPlYmRcGTAAhkhRAAAgabVBBAhk",
   "gVAAAhkiXAAAhkgRABAgaaRYAAgmfXAAAgmgBAAAhkgLAAAhkgNABAhkkVAAAhkePAAAhkeNABAgadLABAgadXAB",
   "AgaeNABAgaeVADAgaeRCAAhkiHAAAhkiFAABhkmZcfAAABhknBcfAAABhknDcfAAABhknFcfAAAAhkiLAAAhkiNA",
   "AAhkiPAAAhkmPAAAgagTCAAhklTAAAhklXAAAhklPAAAhknZAAAgmiXABAhknPAAAhkhJAAAhkhHABAgagFAAAhk",
   "oLAAAhkoHABAhkoBAAAhknZAAAhkmXAAAhkmVAAAhkmZBAAhkkTABAhkpDAAAhknDEABhkpZerMAABhfzLWAABhk",
   "qDerOBABhkqHerQBABhkqLerSAABhfzXbCAABhkqPerUAABhgaBbEAABhkqTerWAABhgaFbGAABhkqXerYAABhga",
   "JbIAABhkrBesAAABhgaNbKABAhgcZABAhgdBABAhgdDABAhgdFABAhgdHAAAhgdJAAAhgdLABAhgdNABAhgdPAAA",
   "hgdRAAAhgdTABAhgdVABAhgdXAAAhgdZAAAhgeBABAhgeDAAAhgeFAAAhgeHABAhgeJAAAhgeLAAAhgeNABAhgeP",
   "AAAhgeRAAAhgeTABAhgeVAAAhgeXAAAhgeZABAhgfBABAhgfDABAhgfFABAhgfHABAhgfJAAAhgfLAAAhgfNABAh",
   "gfPAAAhgfRAAAhgfTABAhgfVAAAhgfXAAAhgfZABAhggBAAAhggDAAAhggFABAhggHAAAhggJAAAhggLABAhggNA",
   "AAhggPAAAhggRABAhggTAAAhggVAAAhggXABAhggZAAAhghBAAAhghDAAAhghFAAAhggTAAAhggVAAAhggXABAhg",
   "gZAAAhghBAAAhghDABAhghFAAAhghHAAAhghJABAhghLAAAhghNAAAhghPABAhghRAAAhghTAAAhghVABAhghXAA",
   "AhghZAAAhgiBABAhgiDAAAhgiFAAAhgiHABAhgiJABAhgiLABAhgiNAAAhgiPAAAhgiRAAAhgiTAABhgjHcPAABh",
   "gjJcPAABhgjLcNAABhgjNcNAABhgjPcJAABhgjRcJAABhgjTcFAABhgjVcFEbFAhlbBAZAhkyPAbJAhlbBABAgfz",
   "FAAAhlhLABAgbaXAAAgbbXAAAgaiTAAAgajNAAAgapVAAAgapTAAAgapRAAAgapPAAAgapNAAAgalDAAAgalBAAA",
   "gakZAAAganVAAAgajNAAAgaqNAAAgaqLAAAgaqJAAAgaqHABAgaqFAAAgaqDAAAgaqBAAAgapZAAAgapXAAAgapV",
   "AAAgapTAAAgapRAAAgapPAAAgapNAAAgapLAAAgapJAAAgapFAAAgapDAAAgapBAFAgaoZAAAgaoVAAAgaoRAAAg",
   "aoNAAAgaoJAEAgaoFAAAgaoDAAAgaoBAFAganZAAAganXAAAganRABAgauRBBAgytDAAAgygFAAAgytFABAgygFA",
   "CAgytJAFAgygHAAAgysHACAgytXAAAgysBAJAgytZDFAgyoFCFAgyoJCFAgyoNCCAgyoRDBAhliHAAAhlhRAABhl",
   "sNceYAAAhliHAAAhliLAAAgncBBAAgjuPADAgmkNAAAgjiVAAAgjfPboBbNAdCfGbJAdCgAKAdABOAdABGAdABBA",
   "dAsXBAhplPAAAhqxLAAAhpqBAAAhpvNBAAhppNAAAcruHAAAhppNAAAhppRABAhpvTAAAgvfRAAAhpvVAAAhpvLA",
   "AAhppTAAAhpvDAAAhpvJAAAhpvPAAAhprDAAAhqtVAAAhprFAAAhpvJAAAhptFABAhpqJAAAhpvHAAAghdWAAAcu",
   "tPAAAhpvJAAAghdSAAAhptBAAAghdQAAAhqyLABAhpvDAAAhrjBAAAhpvBAAAghdIABAhpuZAAAhpuXAAAhprXAA",
   "AhpsDAAAcrxBAAAhpsFAAAhpuRAAAgkbLBAAhpuJABAhptBAAAhptXACAhqkPAAAghcCAAAghdObuZbYAeYgBVAc",
   "MegObFAcMbgjWbFAcMcMYAcCbjqRZAnktLAJAnkzFbrGABNbCAABNbAAACPbASAACRbAUAACTbAWAACVbAYAACXb",
   "AbAdIABDgLAABDgNAACHgLSAACHgNSAACLgLUAACLgNUwDZAnqeNAZAnqgNAZAnqiNAGAnqkNBRAnqkNAZAnqmNA",
   "ZAnqoNAAAnqqNBBAnqqNCAAnqqNCBAnqqNCDAnqqNBHAnqqNADAnqsNBAAnqsNBGAnqsNBKAnqsNAZAnquNAZAnq",
   "wNABAnqyNBDAnqyNCHAnqyNBGAnqyNBZAnraNABAnrcNBDAnrcNBEAnrcNBAAnrcNDGAnrcNBZAnreNAZAnrgNAZ",
   "AnriNAZAnrkNAZAnrmNAZAnroNAZAnrqNAZAnrsNAZAnruNAZAnrwNAZAnryNAZAnsaNAZAnscNAAAnroNAAAnqu",
   "LCQAnprPAAAnpsJAGAnprPAAAmsuDAQAnptPAAAnptNAGAnptPAAAmswNAAAnpvHAAAnpvDAAAnpvBAAAnpuFAAA",
   "npuRAAAnpuVAQAnpwBAAAnpwVAGAnpwBAAAmsyPAQAnpyBAAAnpxZAGAnpyBAAAmtaZAAAnpzTAAAnpzPAAAnpzN",
   "AAAnpyRAAAnpzDAAAnpzHAQAnqaNAAAnqbHAGAnqaNAAAmtdBAQAnqcNAAAnqcLAGAnqcNAAAmtfLAAAnqeFAAAn",
   "qeBAAAnqdZAAAnqdDAAAnqdPAAAnqdTAQAnqeZAAAnqfTAGAnqeZAAAmthNAQAnqgZAAAnqgXAGAnqgZAAAmtjXA",
   "AAnqiRAAAnqiNAAAnqiLAAAnqhPAAAnqiBAAAnqiFAQAnqjLAAAnqkFAGAnqjLAAAmtlZAQAnqlLAAAnqlJAGAnq",
   "lLAAAmtoJAAAnqnDAAAnqmZAAAnqmXAAAnqmBAAAnqmNAAAnqmRAAAnqkNAAAnqkPCJAntfFAJAntfZAJAntgTAJ",
   "AnthNAJAntiHdcQIAnwnNACAnwnLAKAnwnJAAAnwnFABAnwnDAAAjdqNAAAnwcPAAAnwmTAAAnwmRAAAnwbPAAAn",
   "wgDAAAnwdTAIAnwqBABAnwpZABAnwpVAAAnwpTAFAnwpRABAnwpPAAAnwkHAAAnwoXAAAnwpBAAAnwoJAAAnwiPA",
   "AAjdxLAAAnwiHdgKbHAcQbvYBAofmVAAAofmPAAAofmLBAAofkRAAAofmLAAAofmXAAAofmFAAAofkVADAoflLAA",
   "AofmZAAAofmPAAAofmBAAAofnBAAAofmDAAAofnNAAAofnJABAofoFAAAofoBAAAofnZAAAofnPAAAofnNAAAofn",
   "LAAAofjNAAAofdTAAAoffTAAAofjRBAAofpHAAAofpBBAAofnDCAAofpJBAAofnHADAofnXAAAofpLAAAofpBAAA",
   "ofoNAAAofpNAAAofoPBAAofpVABAofqRAAAofqNBAAofqBBAAofpXGAAofrNEAAofrVBAAofpTBAAofqJBAAofqJ",
   "AAAofrXAAAofrNBAAofrZAAAofrBBAAofsHCAAofsZBAAofsNBAAofsJBAAofiRBAAofoPBAAofuFAAAoftZBAAo",
   "fsBCAAofuHAAAoftPAAAofsFAAAofsVBBAofsVAAAofuJAAAoftZAAAoftLAAAofuLAAAoftNBAAofuTABAofvPA",
   "AAofvLBAAofuZAAAofuXAAAofuVAAAofqXBAAofnDBBAofwRAAAofwLAAAofwHABAofuNAAAofwHAAAofwTAAAof",
   "wBAAAofuRBCAofvHAAAofwVAAAofwLAAAofvXAAAofwXAAAofvZAAAofxJAAAofxFABAofyBAAAofxXAAAofxVAA",
   "AofxLAAAofxJAAAofxHFAAofzDAAAofyXAAAofyTBAAofwZAAAofyTAAAofzFAAAofyNAAAofxDBCAofxTAAAofz",
   "HAAAofyXAAAofyJAAAofzJAAAofyLAAAofzVAAAofzRABAogaNAAAogaJAAAogaHAAAofzXAAAofzVAAAofzTwJA",
   "BomhLHAABomhLJAABomhLLAABomhLNAABomhLPAABomhLRAABomhLTAABomhLVAABomhLXAABomhLZFAComjFeKe",
   "HAAComjHeMeJAAComjJeOeLAAComjLeQeNAAComjNeSePAAComjPeUeRAAComjReWeTAAComjTeYeVAAComjVfAe",
   "XAAComjXfCeZAAComjZfEfBAAComkBfGfDAAComkDfIfFAAComkFfKfHAAComkHfMfJAAComkJfOfLAAComkLfQf",
   "NAAComkNfSfPAAComkPfUfRAAComkRfWfTAAComkTfYfVAAComkVgAfXAAComkXgCfZAAComkZgEgBAAComlBgGg",
   "DAAComlDgIgFAACncdNbkbXbkcAAAAomgTAAAomfRAABomgXCAABomfLGBZAomhHAABomiTbCAABomiLSAABomiB",
   "bDAABomiDAAAComiLAMAABomhZbNbAABomkVTAABomkXRAABomkZKbJABomoLMeHABncmBdRAABnchVAAAAnchTN",
   "AAlquJAAAlwbJAAAmbtZAAAnchRAAAmftNAAAlxtTAAAkmvDAAAlxsTAAAmfrZAAAlnxPAAAlfoZAAAloiDAAAmc",
   "yFAAAlsxLAAAmdnDAAAlogRAAAmdcFAAAkwkRAAAlcoZAAAkktNAAAlxyDAAAmbnBAAAlheHAAAlqqLAAAlqbTAA",
   "AmgfXAAAmgfHAAAkiaRAAAlufBAAAmgcTAAAmbtDAAAlqiHAAAkkfFAAAlqwHAAAkzhXAAAkyoVAAAmbrZAAAlhq",
   "VAAAlnhXAAAlniBAAAlcpDAAAmcxPAAAmalJAAAkhhZEACncyXbpsYbpsVAACncyZwrYwrVAACnczBxcAxbXAACn",
   "czDbgxUbgxRAACnczFbwzAbwyXAACnczHbmbMbmbJAACnczJcbpMcbpJAACnczLbajAbaiXAACnczNboiWboiTHA",
   "AltaNAAAmbwDdqSJAouoTdrlMAAtwjLAAAtwjXAAAtwjHAAAhezPAAAtvnJAAAtvhLAAAtvgNAAAtvbDAAAturZA",
   "AAtupRAAAtujTAAAtulRAAAupuXAAAhbeBAAAtucFAAAtubTAAAtuaPAAAttzFAAAhcaLAAAuptJAAAtuaRAAAtt",
   "xVAAAhbxDAAAttxFAAAttwHAAAtwaJAAAttvVAAAttvFAAAczlHAAAttqLAAAttpLAAAuprJAAAttlHAAAttkNAA",
   "AtthFAAAttgXAAAupnPAAAttaXAAAttaVAAAtsyVAAAtsxFABAtswLAAAtsvFAAAtsrLAAAtsqXAAAtsqHAAAtso",
   "LAAAtsnTAAAtsnRAAAtsnTAAAtsnVAAAgyhJAAAswqBAAAtsiHAAAtsgTAAAgxjTAAAtsfZAAAtsfPAAAtseBAAA",
   "trsLAAAtsaJAAAtrzFAAAtrwVAAAtrsLAAAtrmBAAAtrkDAAAtrfBAAAtrdXAAAtrbLAAAtrbNAAAtqzZAAAtqyR",
   "AAAtqyDAAAtqxBAAAtpwZAAAtqrZAAAtpxBAAAtqmJAAAtqjTAAAttsZAAAtonDAAAtpjJAAAtpgNAAAtpeRAAAt",
   "poTAAAtpbZAAAtpcDAAAtosTAAAgqhDAAAtonNAAAtonFAAAtomDAAAtokRAAAtokDAAAtofHAAAgoyXAAAgotXA",
   "AAtnuXAAAtnrJAAAtnqNAAAtnwRAAAtnlVAAAuoiJAAAuohJAAAtmzPAAAtmvNAAAtmvPAAAgmqHAAAtmlNAAAtm",
   "jZAAAtmiXAAAtmiBAAAglqVAAAtmhHAAAtmgVAAAtjtXAAAtmeVAAAunyFAAAtmaFAAAtlzFAAAtlsZAAAtlwZAA",
   "AgjoNAAAtljDAAAgjoNAAAtlfZAAAtlgHAAAtlfBABAtkxJAAAunlVAAAtkvLAAAtksFAAAtkqRAAAtknJAAAuni",
   "HAAAggwHAAAungLAAAtkiFAAAtkiBAAAtkhXAAAtkgLAAAcmjPAAAtkcPAAAgfpVAAAgfpXAAAsjpJAAAtkaDAAA",
   "tkaFAAAunbPAAAftwNAAAekeLAAAtjvPAAAtjuZAAAumzVAAAtjrNAAAtjnRAAAtjmZAAAtjkLAAAtjaBAAAumtP",
   "AAAumvZAAAtiyVAAAgcxRAAAtivBAAAtilFAAAtikZAAAtikXAAAtilDAAAtihRAAAtigFAAAtidNAAAtieRAAAt",
   "idXAAAtiaJAAAthyXAAAthyRAAAthwTAAAthvZAAAthqZAAAthkPAAAthhZAAAtgyNAAAfzuDAAAthaDAAAthfFA",
   "AAtgwZAAAtguZAAAtgnPAAAfzcZAAAtgiZAAAtgqFAAAtgsLAAAumdJAAAtgdVAAAtgcHAAAtfzZAAAtgcZAAAul",
   "yZAAAtfmNAAAtfkJAAAfwbFAAAtfbJAAAtegDAAAtetRAAAulmFAAAteoHAAAulnRAAAulqNAAAtulZAAAtulVAA",
   "AtegDAAAtenXAAAskuRAAAuewPAAAteeRAAAteeLAAAteeBAAAtdzLAAAteaJAAAfthJAAAuljTAAAtdnTAAAtdw",
   "VAAAtdhDAAAtddHAAAfsuTAAAtdcTAAAtdlJAAAtcsPAAAuldZAAAtcpFAAAtchVAAAtccLAAAtbnXAAAfrdXAAA",
   "tbkDAAAukvBAAAtbeXAAAfpqNAAAtbbDAAAukrFAAAtayZAAAtavPABAtatPAAAfofRAAAgkoVAAAfnxLAAAtaiP",
   "AAAfmoZAAAtaaBAAAszzBAAAtagZAAAsztPAAAszqPAAAszmHAAAszqNAAAsznNAAAszmLAAAszlNAAAfmiHAAAs",
   "zrXAAAsyyRAAAsytXAAAukbLAAAsymXAAAsynHAAAflbJAAAszdHAAAsyaRAAAfkqTAAAfknDAAAsxuDAAAsxlJA",
   "AAsxnNAAAsxnVAAAujuTAAAsxkJAAAsxgNAAAsxhBAAAsxcZAAAhcuDAAAswrLAAAfikHAAAswkXAAAfhlFAAAsw",
   "aHAAAsvzJAAAsvxJAAAffqZAAAsvtVAAAsvsHAAAfeuBAAAfecZAAAsvaXAAAsuzRAAAujaXAAAsuxVAAAujaDAA",
   "AujaFAAAsulPAAAsukBAAAsuiNAAAsuhBAAAsubVAAAuitBAAAstvBAAAfbaRAAAsttFAAAfatTAAAstpNAAAghh",
   "RAAAstdJAAAeylVAAAeykDAAAexzLAAAuicPAAAuibTAAAssmHAAAexmHAAAexmLAAAexjNAAAexhPABAssjLAAA",
   "ssjNAAAssgHAAAuhyTAAAssbLAAAuhxXAAAuhrVAAAevcXAAAsrmTAAAsriBAAAsrdFAAAuhmHAAAetpFAAAsqsV",
   "AAAetgLAAAetdFAAAsqoRAAAsqhRAAAuhgZAAAsqbHAAAsqaPAAAsqaHAAAercHAAAeqfJAAAeqfLAAAspoJAAAu",
   "grJAAAeplRAAAsoxZAAAsoxVAAAugoVAAAeovPAAAsodRAAAugfTAAAsocDAAAsocPAAAsoaLAAAemoNAAAsnsZA",
   "AAufyTAAAsnlLAAAsngZAAAsnbXAAAufvDAAAekpFAAAekmXAAAufsNAAAekbVAAAsmePAAAejuFAAAsmcRAAAsl",
   "uZAAAsluFAAAeioVAAAeijHAAAslnLAAAehzFAAAslmJAAAfubPAAAufjZAAAslhNAAAslbJAAAufgBAAAskwZAA",
   "AtobXAAAegmPAAAeglPAAAftyHAAAftxRAAAskiLAAAskiHAAAsaaNAAAuezLAAAsjxRAAAsjyFAAAsjwXAAAtue",
   "NAAAsjvNAAAsjvLAAAsjuTAAAsjrRAAAedvHAAAsjrXAAAsjnRAAAsjiJAAAsjcTAAAsjnLAAAsjbRAAAsiyNAAA",
   "sipZAAAsjkBAAAsjaZAAAsjaXAAAsizTAAAeddBAAAecfJAAAecqZAAAuemPAAAsieVAAAsieTAAAsicDAAAdxkJ",
   "AAAshwHAAAeaxLAAAuejHAAAuejBAAAeanLAAAdzrHAAAueiNAAAsheRAAAshdVAAAshdBAAAshcZAAAsgyDAAAs",
   "haTAAAsgqNAAAsgtZAAAsgiLAAAsgoTAAAsgjRAAAsghRAAAuebFAAAsgaVAAAsfyLAAAudyVAAAsfrHAAAsfrDA",
   "AAdvmXAAAsfiJAAAsfhXAAAuduRAAAsffXAAAuraZAAAdtuNAAAdtgLAAAudkNAAAudjXAAAsdzXAAAsduBAAAsd",
   "iBAAAscsNAAAdquVAAAscmBAAAsckLAAAscdPAAAsbwPAAAdoxLAAAhbeFAAAsbqJAAAsbrPAAAsbnRAAAhanTAA",
   "AsawHAAAsaoRAAAdjxJAAAdjvJAAArzoDAAArzhBAAArzeRAAAdiwZAAArzeBAAAryiFABArxwBAAArydFAAArwz",
   "ZAAArwxXAAAdfhDAAArvvHAAAubjFAAArvsBAAAdeeDAAAubdFAAAruxRAAAtmdNAAAruqLAAAdbhPAAAdarHAAA",
   "uatFAAAuasRAAArucHAAAczfLAAAuaoHAAAcyuVAAArtzHAAArtzJAAArtxDAAAcxyZAAArtjBAAAuaeXAAArtdT",
   "AAArsuDAAArssDAAArsnPAAAtztJAAActvTAAArrsPAAArqvLAAArqgZAAAtzaBAAAtyxTAAArpzBAAAcppRAAAt",
   "yxDAAAcplPAAAcorHAAAcohHAAArozJAAAtyqHAAArouTAAArouLAAArotZAAArotHAAArosVAAAroqBAAAclsJ"]

def replacements : List Replacement :=
  Replacement.ofPieces replacementPieces

def refused : CodeSet :=
  CodeSet.ofPieces
    ["eYbFbbZBFDGAAATApGAbLBbXBCAcCHbADFQVAhJAbVBcGBdWNcGBbWBOAbBBAAKEbFGcWAgEAHBBBVAGAACDBIBB",
     "BDHADBAEBYBCAFDBBVAGABABABBAAEDBBCCAGDAAGQJCAIACAVAGABAEBJACACBAODBLGGACAHBBBVAGABAEBIBB",
     "BCGCDBAEBRJBAFCCADCBAAABCBCCCLDECCADBAFANUEMACAWAPBIACADGBACABBDBJGVACAWAJAEBIACADGBECAD",
     "BJACLMACAbYACAFDPBZACARCXAIAABGCADFAAAHFJBCLcFDbCbKBAAAEAXAAAWBEAAAGAJBDbFcTAbJDbMAbJAOA",
     "MbKhPAAEABoMADBGAAADBbOADBbGADBGAAADBOAcEADBcOBbFCZFdHBFByPAbBCdKGVIXITLMACABLdPBJFJFZFd",
     "KGbQEcRJbEALDLDACbPBEKbRDZFKCcJBcMAbCBKFJFNBbTBLTcYAgJHcHCOCcJEbQBKHbQEuNBFBbLBFBHAAAAAA",
     "AbEBcAAOANBFASBCAIANBTCAGcBEHBbAAMCbHNbGOfJDzPVKUbNTcpJBoREbSAAEABcDGBNXIGAGAGAGAGAGAGAG",
     "AeVbHZAdKLiFbPcLAdHBdYEbQAdPAdHJbUAqBADAPAbqrRCcCInJThBHiMTcHCJFcDHcRHLFeLKbDCcZAKDbGAcC",
     "INBJBdYXbBJFBFBFIGAGAcHDeVBJFqnRLWDbWmnBoBBeBbLGLEEZAEAAABABAyZbFbHAFGPAbGBSADDEAfEBAAhH",
     "CFBFBFBCCGAGQLAZASABAOBNbHeSECDbSCdJAMCAbUbTeZbCCbWObBDbJIbDEbQEbDAbKDNbPgBBJFbJDbJDbNHb",
     "ZKLAOAGABAKAOAGABCbZLlYIVJHXFAbPAIcQFBAAbRABCABWAcTHIbVSABEbGCbAEbAbLcDDTBbXABEHACAbCBCD",
     "JGIGcLbFbMDLIcBCbCBbAEZGDLGdBcUcCbYMbYGbTHJFbLCbCHBhZbEAbPACBBPFHIbGbTHbPVZbLbBTWIcZDbJI",
     "cJAEMYGJFcAARHbMIdRATKRAbUcJGAAADAOAKFcGEJFDAHBBBVAGABAEAJBBBCBAFAEGBGCEKJAABAAbLAJAABAA",
     "DAJABHBbCdNAEbDcTHJgJcBBbLbHcQKJFMScFFJFTbBbABODWhCcHdVdELHBABHABAbDABBLIJcRHBbTBKbAcTHd",
     "EMcUGJdHHdJbHNJFIAbSANJbCCbFBVANcUGABAbRCAABAIHJFFABAbKABAFGJFbRDJjLYGQAbOCbCdGAObXMbjMd",
     "XeGAEKhNdxJdUMbpFPVJfxQEwKkdCcFcoRvWGbEAJDdCAJFbDBFJcRJJAGAUESqPcFhPdMEYBYbRcWDcEGQcLEKG",
     "IkxXbObFdSeKmwQDAGABAlEOAbCCBANDHpFdkTeCEMCIGJBHfvFjSCqTFWOQObTBWIeLcHjLJbMBhLUcReRTLTLd",
     "IIYfEdGAcSABBABBBDALAAAGAcMADBHAGAbBADAEAACGAnBBlFBbaZOEAObqLbEFFiEGAQBGABAEEcJbGAeHbSCN",
     "BJDBmHbEQcFEArVbPiFbQDAhJbEAVHBiPGADABAOAhOBPbOcXDJDBbeEcPcXcIhLDAbAABAABAAJADAAAAFADAAA",
     "AAACABAABAAAAAAAAAABAABDAGADADAAAJAQECAEAQbZBkJbRDdVLOBOAOAbKKgQcDbCMbRDIGBNFfXblWCQCMCi",
     "JFLDAOLDcDHJFbNHbDBLDBNIbMnFHNBMCKCcEAADPBLDJGfQAdYbnOclfBbFgmNBioBBlbKOxXdqVuVcfXhhYEmo",
     "NbogxXjFlecT"]

def ignored : CodeSet :=
  CodeSet.ofPieces
    ["gRAzWAfiKBckGBdGEdaOAdFEEFgkXAczmOPjEAgDActoWDhwWHbtljGjF"]

end NameMapping

/-- What a character counts as in a name, if names may hold it. -/
def nameForm? (c : Char) : Option (List Char) :=
  if NameMapping.refused.contains c then none
  else if NameMapping.ignored.contains c then some []
  else
    match Replacement.find? NameMapping.replacements c.toNat with
    | some targets => some (targets.map Char.ofNat)
    | none => some [c]

end FleetMonitor.Text
