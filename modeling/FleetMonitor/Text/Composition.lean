import FleetMonitor.Text.Replacement

/-!
# Composed characters

Many characters can also be written as several, a letter and its marks.  In the
composed form of a text marks stand in the order of their classes, and all that can be
one character is one.
-/

set_option autoImplicit false

namespace FleetMonitor.Text

namespace Composition

def decompositionPieces : List String :=
  ["hKABjTccCAABjVccEAABjXccGAABjZccIAABkBccSAABkDccWBABkDceYAABkBcbUAABkDcbWAABkFcbYAABkHcc",
   "KAABkBcbMAABkDcbOAABkFcbQAABkHccCBABkBcbIAABkBcbAAABkDcbCAABkFcbEAABkHcbGAABkJcbQCABkDca",
   "OAABkFcaQAABkHcaSAABkJcbEAABkDcaICABjTbzQAABjVbzSAABjXbzUAABjZbzWAABkBcaGAABkDcaKBABkDcc",
   "MAABkBbzIAABkDbzKAABkFbzMAABkHbzYAABkBbzAAABkDbzCAABkFbzEAABkHbzQBABkBbyWAABkBbyOAABkDby",
   "QAABkFbySAABkHbyUAABkJbzECABkDbyCAABkFbyEAABkHbyGAABkJbySAABkDbxWBABkHbyKAABoRccKAABmHbz",
   "YAABoVccOAABmLcaCAABoZcfEAABmPccSAABoZccAAABmPbzOAABpDccCAABmTbzQAABpHccMAABmXcaAAABpLcc",
   "WAABnBcaKAABpNccUAABnDcaICABpTccCAABnJbzQAABpXccGAABnNbzUAABqBccIAABnRbzWAABqFceWAABnVcc",
   "KAABqJccSAABnZcaGAABqJcbUAABnZbzIAABqNccCAABoDbzQAABqRccEAABoHbzSAABqVceQAABoLccEAABqXcb",
   "SAABoNbzGCABrDcbSAABoTbzGAABrHcbUAABoXbzIAABrLcbYAABpBbzMAABrPceOAABpFccCAABrTccADABrZcb",
   "OAABpPbzCAABsBceIAABpRcbWBABsFcbIAABpVbyWAABsJceGAABpZcbUAABsNccEAABqDbzSEABsVcbEAABqLby",
   "SAABsZceCAABqPcbQAABtDccAAABqTbzODABtLcbIAABrBbyWAABtPcbMAABrFbzAAABtTcbWAABrJbzKCABtVca",
   "WAABrLbyKAABtZcdUAABrPcbIAABuDcbSAABrTbzGAABuFcaUAABrVbyIAABuJcaWAABrZbyKAABuNcdSAABsDcb",
   "GAABuRcbQAABsHbzEAABuTcdQAABsJcbEAABuXcbOAABsNbzCCABvDcaUAABsTbyIAABvHcaWAABsXbyKAABvLcb",
   "AAABtBbyOAABvPcbIAABtFbyWAABvTcbKAABtJbyYAABvXcdQAABtNcbEAABvXcaOAABtNbyCAABvXcaKAABtNbx",
   "YAABwBcaWAABwBcaGAABtRbxUAABwFcaSAABtVbyGAABwJcbCAABtZbyQbHABzXcdCAABxNcaQNABbaPccQAAByF",
   "caEbCABbeLcdAAABbcBcaOAABbdZccKAABbbPbzYAABbdRcbYAABbbHbzMAABbdJcbMAABbaZbzAAACbdNcbEHAA",
   "CbbDbySHAACbdRcbENAACbbHbySNAACbdVcbEIAACbbLbySIAACbdZcbEPAACbbPbySPBACbfTccSHAACbdJcaGH",
   "AACbfXccQFAACbdNcaEFAABvVbsEAABtLbpSCABbfXccOAABbdNcaCAABbfTccGAABbdJbzUAABbfPceCAABbdFc",
   "bQAACbfTceCcTAACbdJcbQcTAABeFbaGAABmOjKAABbdZbzWDABbgZcbSAABbePbzGCABbgTcbCAABbeJbyQAACb",
   "hXccWRAACbfNcaKRAABxVbrYAABvLbpMAABwPbqOAABuFboCAABbiJcdGAABbfZcaUAABbiNcdKAABbgDcaYAABb",
   "iJccYAABbfZcaMAABbiNcdCAABbgDcaQAABbiJccQAABbfZcaEAABbiNccUAABbgDcaIAABbiFccEAABbfVbzSAA",
   "BbiJccIAABbfZbzWAABbiHcbYAABbfXbzMAABbiLccCAABbgBbzQAABbiJcbSAABbfZbzGAABbiNcbWAABbgDbzK",
   "AABbiVcdQAABbgLcbEAABbiXcdOAABbgNcbCCABbkDccMAABbhTcaAGABblHccQAABbiXcaEAABblDceUAABbiTc",
   "cIAACbkNcbQHAACbiDbzEHAACbkRcbGCAACbiHbyUCAABbkVcbOAABbiLbzCAACbkZcbOFAACbiPbzCFAABbkJca",
   "OAABbhZbyCkIBAeXBAAdRAABePNbVAAoJJAAcmFGABceJbuGAABWlBAAAcdJAABbAlJAABbClNAABbElRBABbMmD",
   "BABbUmPAABcAmXAACdEnPNZABbHlDAABLmBAABKnNAABQnVAABSnZAABUoDAACbQoNNZABbHnPAABLoNAABZoPAA",
   "BPpBAABJpJEABBqBAABDpNbRABbQvHAABbOuRBABbGvBDABBtNEABbCvPAABWvNAABbQvXKABBvBbFABBxNWABcB",
   "xTAABcDxDBABcLxNDABBzREABcPyBAABcVxZAABcByJXABDbbLAABDbbNcVABnDuXAABkTxJNABoTuLAABmJwXAA",
   "BoXuHAABmNwTCABoVuVAABmLxHCABDbjRAABDbjTAABpFuTAABmVxFAABpHuVAABmXxHCABpNvFAABnDxRAABpRu",
   "XAABnHxJAABpJvJAABmZxVCABDbkXAABDbkZAABoRwNAABmHyZAABpPwBAABnFyNAABpTvTAABnJyFAABpXvNAAB",
   "nNxZAABpTwBAABnJyNCABpTwJAABnJyVlKABKdKAABIdMAABcUYAABEdOAABcUUfXABbQjXBABBiJQABBjRwZABB",
   "bOHABBYCABBSbJABfDdAAABfDcYAABfDcWAABeVcMAABeNcCAABeNcAAABdXbIAABdRbAeDABHRAABJbGPABeNcC",
   "AABeNcABABdRbAdFABBUCABEIbIABfDcYAABfDcWAABeVcMCABdXbIiZABBbECABHRAABJbGPABeNcCAABeNcAcC",
   "ABDfIcBABHPAABHRAABLbIeTABDbGePABBbSGABBbEAABDbGBABHHAACJHbMeWABHPAABHRAABLbIfLABBbDBABF",
   "TAACHTJAABJMnSABBjAJABBiGEABBhWEABBhMEABBhCMABdDjAJABDCBABHGAABeQdVBABeOdXIABbFbERABBcWJ",
   "ABBcCEABBbSEABBbIEABBYMABdDcWeEABBSedBABBdSBABBdOBABBdKBABBdGBABBdCDABBcUbOABBJBABBNCABD",
   "RAABDTBABBZbaYABwnTceYAABwlJccMAABwnVccOAABwlLcaCAABwnZceSAABwlPccGAABwoDcfUAABwlTcdIAAC",
   "woFceYcXAACwlVccMcXAABwoHccKAABwlXbzYAABwoLceOAABwmBccCAABwoPcfQAABwmFcdEAABwoTceWAABwmJ",
   "ccKAABwoXcfIAABwmNccWAACwoZccCHAACwmPbzQHAACwpDccCFAACwmTbzQFAABwpHcfGAABwmXccUAABwpLcfM",
   "AABwnBcdAAACwpPceUcNAACwnFccIcNAABwpRccGAABwnHbzUAABwpTcbYAABwnJbzMAABwpVccCAABwnLbzQAAB",
   "wpZceGAABwnPcbUAABwqDccEAABwnTbzSAABwqHceOAABwnXccCAABwqLcfCAABwoBccQAABwqNcfEAABwoDccSA",
   "ACwqRccCNAACwoHbzQNAABwqRcbKAABwoHbyYAABwqVceAAABwoLcbOAABwqZcfCAABwoPccQAABwrBcdYAABwoR",
   "cbMAACwrFcdYcJAACwoVcbMcJAABwrJcfAAABwoZccOAABwrNceSAABwpDccGAABwrPcbGAABwpFbyUAABwrTcbS",
   "AABwpJbzGAABwrXcdWAABwpNcbKAABwrZcbQAABwpPbzEAABwsDcdUAABwpTcbIAABwsHceWAABwpXccKAABwsLc",
   "eOAABwqBccCAACwsNcbGDAACwqDbyUDAACwsRcbGKAACwqHbyUKAACwsVcbIHAACwqLbyWHAACwsZcbIFAACwqPb",
   "yWFAABwtBcbAAABwqRbyOAABwtFcbMAABwqVbzAAABwtFcbIAABwqVbyWAABwtJcdMAABwqZcbAAACwtNcdMcJAA",
   "CwrDcbAcJAABwtRceOAABwrHccCAABwtTcbGAABwrJbyUAABwtXcdKAABwrNcaYAACwuBcaUMAACwrRbyIMAACwu",
   "FcbQJAACwrVbzEJAACwuJcdKcDAACwrZcaYcDAABwuLcbEAABwsBbySAABwuPcdIAABwsFcaWAABwuTceKAABwsJ",
   "cbYAABwuXceCAABwsNcbQAABwuZcdIAABwsPcaWAABwvDceGAABwsTcbUAABwvHceAAABwsXcbOAACwvLcaUDAAC",
   "wtBbyIDAACwvPcaWIAACwtFbyKIAABwvRcaSAABwtHbyGAABwvVcdEAABwtLcaSAABwvXcaKAABwtNbxYAABwwBc",
   "aMAABwtRbyAAABwwFcbAAABwtVbyOAABwwJcaYAABwtZbyMAABwwNcdCAABwuDcaQAABwwPcaWAABwuFbyKAABww",
   "TcaYAABwuJbyMAABwwVcaUAABwuLbyIAABwwXcaIAABwuNbxWAABwxBccWAABwuRcaKAABwxFcdYAABwuVcbMAAB",
   "wwHccWAABwvLbyUAABwvHbySAABwvFbyOBABwbFbeEEABxaBceUAABwxRccIAABxaFccUAABwxVcaIAACxaJccGB",
   "AACwxZbzUBAACxaNccGDAACwyDbzUDAACxaRccGOAACwyHbzUOAACxaVccGCAACwyLbzUCAACxaZceUcNAACwyPc",
   "cIcNAACxbDccOJAACwyTcaCJAACxbHccOLAACwyXcaCLAACxbLccOGAACwzBcaCGAACxbPccOFAACwzFcaCFAACx",
   "bTceUcFAACwzJccIcFAABxbPceMAABwzFccAAABxbTccMAABwzJcaAAABxbXccAAABwzNbzOAACxcBcbYBAACwzR",
   "bzMBAACxcFcbYDAACwzVbzMDAACxcJcbYOAACwzZbzMOAACxcNcbYCAACxaDbzMCAACxcRceMcNAACxaHccAcNAA",
   "BxcNccEAABxaDbzSAABxcRceEAABxaHcbSAABxcJcdSAABwzZcbGAABxcNcbSAABxaDbzGAACxcRcbEBAACxaHby",
   "SBAACxcVcbEDAACxaLbySDAACxcZcbEOAACxaPbySOAACxdDcbECAACxaTbySCAACxdHcdScNAACxaXcbGcNAACx",
   "dLcdCbZAACxbBcaQbZAACxdPcdCcBAACxbFcaQcBAACxdTcdCbJAACxbJcaQbJAACxdXcdCbVAACxbNcaQbVAACx",
   "eBcdCQAACxbRcaQQAABxdTcdGAABxbJcaUAABxdXcbGAABxbNbyUAACxeBccQbZAACxbRcaEbZAACxeFccQcBAAC",
   "xbVcaEcBAACxeJccQbJAACxbZcaEbJAACxeNccQbVAACxcDcaEbVAACxeRccQQAACxcHcaEQAABxeNcaGAABxcDb",
   "xUAABxeRccYAABxcHcaMAABxeVcaYAABxcLbyMAABxeZcaMAABxcPbyAGABurTmDAABurVmBAACurXmDbLAACurZ",
   "mBbNAACusBmDbJAACusDmBbLAACusFmDdQAACusHmBdOAABuuVjRAABuuXjPAACuuZjRbLAACuvBjPbNAACuvDjR",
   "bJAACuvFjPbLAACuvHjRdQAACuvJjPdOAABusRmLAABusTmJAACusVmLbLAACusXmJbNAACusZmLbJAACutBmJbL",
   "CABuvTjZAABuvVjXAACuvXjZbLAACuvZjXbNAACuwBjZbJAACuwDjXbLCAButTmPAAButVmNAACutXmPbLAACutZ",
   "mNbNAACuuBmPbJAACuuDmNbLAACuuFmPdQAACuuHmNdOAABuwVkDAABuwXkBAACuwZkDbLAACuxBkBbNAACuxDkD",
   "bJAACuxFkBbLAACuxHkDdQAACuxJkBdOAABuuVmTAABuuXmRAACuuZmTbLAACuvBmRbNAACuvDmTbJAACuvFmRbL",
   "AACuvHmTdQAACuvJmRdOAABuxXkHAABuxZkFAACuyBkHbLAACuyDkFbNAACuyFkHbJAACuyHkFbLAACuyJkHdQAA",
   "CuyLkFdOAABuvPnFAABuvRnDAACuvTnFbLAACuvVnDbNAACuvXnFbJAACuvZnDbLCABuyRkTAABuyTkRAACuyVkT",
   "bLAACuyXkRbNAACuyZkTbJAACuzBkRbLCABuwJnRAABuwLnPAACuwNnRbLAACuwPnPbNAACuwRnRbJAACuwTnPbL",
   "AACuwVnRdQAACuwXnPdOBABuzNlDBACuzRlDbNBACuzVlDbLBACuzZlDdOAABuxHnZAABuxJnXAACuxLnZbLAACu",
   "xNnXbNAACuxPnZbJAACuxRnXbLAACuxTnZdQAACuxVnXdOAABvaJlNAABvaLlLAACvaNlNbLAACvaPlLbNAACvaR",
   "lNbJAACvaTlLbLAACvaVlNdQAACvaXlLdOAABvaJnPAABvaLnNAABvaFnXAABvaHnVAABvaFoBAABvaHnZAABvaF",
   "oFAABvaHoDAABuzXoRAABuzZoPAABuzPpDAABuzRpBAABuzLpLAABuzNpJCACvbPmDdWAACvbRmBdUAADvbTmDbL",
   "fIAADvbVmBbNfIAADvbXmDbJfGAADvbZmBbLfGAADvcBmDdQGAADvcDmBdOGAACveRjRdWAACveTjPdUAADveVjR",
   "bLfIAADveXjPbNfIAADveZjRbJfGAADvfBjPbLfGAADvfDjRdQGAADvfFjPdOGAACvcJmPdWAACvcLmNdUAADvcN",
   "mPbLfIAADvcPmNbNfIAADvcRmPbJfGAADvcTmNbLfGAADvcVmPdQGAADvcXmNdOGAACvfLkDdWAACvfNkBdUAADv",
   "fPkDbLfIAADvfRkBbNfIAADvfTkDbJfGAADvfVkBbLfGAADvfXkDdQGAADvfZkBdOGAACvcFnZdWAACvcHnXdUAA",
   "DvcJnZbLfIAADvcLnXbNfIAADvcNnZbJfGAADvcPnXbLfGAADvcRnZdQGAADvcTnXdOGAACvfHlNdWAACvfJlLdU",
   "AADvfLlNbLfIAADvfNlLbNfIAADvfPlNbJfGAADvfRlLbLfGAADvfTlNdQGAADvfVlLdOGAABvfHnDAABvfJnHAA",
   "CvfLnPfIAABvfNiHAACvfPnNfGBABvfTiNAACvfViNGAABviJkRAABviLkVAABviNlDAABviPlBAABviRfVBAAvf",
   "TCABxoJbzGAACvgFoBfIAABvgHiTAACvgJnZfGBABvgNiZAACvgPiZGAABvjHlLAABvjJlJAABvjHlPAABvjJlNA",
   "ABvjLgHAABbBvuBAABbDvtZAABbFvoZAABvhDnTAABvhFnXAACvhHnPPAACvhJnPNCABvhPjDAACvhRnPeMAABvk",
   "FlHAABvkHlLAABvkJlTAABvkLlRBABcOvyXAABcMvyVAABcKvtVAABvhLoRAABvhNoVAACvhPoNPAACvhRoNNAAB",
   "viBnJAABviDnHAABvhXkBAACvhZoNeMAABvkNmFAABvkPmJAABvkRmRAABvkTmPAABvlDkVAABxrTbuEAABxrVbu",
   "GAAAxxLCACviNpLfIAABviPkDAACviRpJfGBABviVkJAACviXkJGAABvmFmFAABvmHmDAABvlPmZAABvlRmXAABv",
   "lThRAAAxsBCBAElGAAwiRDAAyxHAAByyDccWeGABTwzNAABRwzRSABbZwzVbEABGxeLAABMxeTAABGxePcAABBxi",
   "JEABBxiTCABBxiZXABBxkVBABBxkZbAABJxmTCABBxnHCABDxnLBABBxnRWABzwFcgSBABBxpPKABcLxoBAABzxJ",
   "cgUAABzxHcgQAABXxpVAABXxpXCABDxqXAABDxqZCABDxrFAABDxrHGABLxrNAABLxrPCABDxsDAABDxsFCABDxs",
   "LAABDxsNbIABTxuPAABJxvBAABJxvDAABHxvHbWABhRxrRAABhRxrTAABgFxtHAABgFxtJGABeHxvVAABeHxvXAA",
   "BeHxvZAABeHxwBcHBAjtMcxTABCbeaRcbNABBgABABBfWBABBfSBABBfOBABBfKBABBfGBABBfCBABBeYBABBeUB",
   "ABBeQBABBeMBABBeICABBeCBABBdYBABBdUGABBdGAABDdIBABBdAAABDdCBABBcUAABDcWBABBcOAABDcQBABBc",
   "IAABDcKWABfZgKJABBHNABBbJBABBbNBABBbRBABBbVBABBbZBABBcDBABBcHBABBcLBABBcPBABBcTBABBcXBAB",
   "BdBCABBdHBABBdLBABBdPGABBeDAABDeBBABBeJAABDeHBABBePAABDeNBABBeVAABDeTBABBfBAABDeZWABfZZC",
   "ABPgPAABPgRAABPgTAABPgVDABBhRcxtHAAdeiXAAAegqBAAAdclRAAAddzHAAAearLAAAezjXAAAevbTAAAcpsV",
   "AAAcpsXAAAeqzFAAAdaeRAAAetvZAAAeraDAAAeklHAAAduyRAAAdobJAAAdiyZAAAdhvXAAAdgxNAAAdbeDAAAe",
   "ejJAAAecaLAAAdzeVAAAdwxLAAAdknDAAAdanTAAAcubXAAAezfLAAAevmBAAAedqFAAAdygRAAAdjbNAAAcqyDA",
   "AAeoaJAAAdzyBAAAdjjFAAAdgqPAAAejwXAAAdmjJAAAdhpVAAAemxVAAAegqLAAAebvZAAAdxqJAAAdbbFAAAey",
   "mVAAAewvTAAAevzDAAAeikTAAAedvNAAAdyjBAAAdurVAAAdnuRAAAdjgFAAAdizRAAAddgPAAAcwgHAAActaXAA",
   "AcrcXAAAdtmBAAAdstLAAAdpqFAAAdkyZAAAczlDAAAcqtDAAAdfqJAAAermJAAAemvLAAAdqpJAAAdnmJAAAdye",
   "HAAAdtiFAAAdefBAAAcwmDAAAernNAAAeovXAAAeemJAAAebqBAAAeasJAAAdqaHAAAdpgBAAAcwzZAAAewcTAAA",
   "dnmLAAAewvVAAAewxDAAAdsjJAAAdppXAAAdkxXAAAcwxJAAAdffFAAAekaPAAAeeoXAAAdfpLAAAezqFAAAepgX",
   "AAAemcXAAAdxjVAAAdvyHAAAevyTAAAdtgRAAAeymTAAAemlLAAAezuHAAAecmXAAAeibHAAAdqdJAAAevmDAAAe",
   "rzNAAAduuHAAAdksVAAAdfxHAAAediPAAAdccNAAAecsXAAAejyVAAAdluRAAAejmNAAAdwaRAAAezjDAAAexhLA",
   "AAexaDAAAefuVAAAdqjFAAAdmeJAAAdfvHAAAdanTAAAewdNAAAevdZAAAerfVAAAencDAAAehxJAAAeaeDAAAdt",
   "fPAAAcxqFAAAcuaZAAAcqwVAAAcqsRAAAewlHAAAeheFAAAedpXAAAdckRAAAenmHAAAeldDAAAekuPAAAeivLAA",
   "AeawBAAAdzfVAAAdwtXAAAdsuNAAAdpqPAAAdntVAAAdcqDAAAdkjLAAAdbwVAAAczmVAAAewwVAAAewmDAAAeuw",
   "VAAAdzqRAAAdhmPAAAdgbDAAAenhHAAAemkHAAAejsZAAAednPAAAdqzNAAAdxqPAAAeziTAAAetfRAAAepmRAAA",
   "eocVAAAemhZAAAdxmJAAAdwyJAAAdomBAAAdnyXAAAdajXAAAcwuHAAAcwoBAAAcvyDAAAeywXAAAdszFAAAdauF",
   "AAAcwzNAAAeltVAAAezrJAAAexxPAAAepnNAAAephJAAAeifHAAAeewNAAAdyzBAAAdvpLAAAdklNAAAdbtDAAAc",
   "qiNAAAehnLAAAcxlFAAAewrJAAAeguZAAAeglVAAAeclLAAAebkVAAAdxiBAAAdwiHAAAdtzXAAAdqmNAAAcvuXA",
   "AAexnZAAAekwDAAAcxgNAAAeymZAAAeosLAAAebzJAAAdcuRAAAemwNAAAeloRAAAegkJAAAdxtFAAAcxgDAAAex",
   "aLAAAevpDAAAephBAAAehyNAAAehaJAAAefzVAAAecuLAAAdxkDAAAdvzPAAAdosVAAAdhrBAAAdhpTAAAdawFAA",
   "AcxaDAAAewgDAAAeblBAAAevpFAAAdzcLAAAdwzTAAAdjvNAAAcxfNAAAcsxHAAAcreLAAAegwFAAAeceDAAAdmy",
   "DAAAdsiHAAAdsbVAAAdqzLAAAdykXAAAeabJAAAdfuTAAAezsBAAAdlzBAAAexbTAAAexfTAAAenrHAAAeknDAAA",
   "dquZAAAeqbDAAAecsRAAAehpBAAAdcxBAAAdidRAAAcxnZAAAdhfHAAAenoPAAAexvZAAAeulLCAAesmLBAAehuX",
   "CAAexkNAAAdyeXAAAdvlPAAAdtpNAAAdtmZAAAdtmNAAAdtjJAAAcwvBAAAdqyVAAAdorXBAAdjxJBAAdgfBCAAd",
   "cfXAAAdbqVDAAcvqRAAAcvpTAAAcvmLAAAcsaZAAAdbtVAAAcxiTAAAezdRAAAeyfRAAAexxXAAAewuTAAAewsTA",
   "AAewkLAAAeurHAAAeujHAAAeubVAAAesrPAAAesjRAAAepoFAAAepnNAAAemjXAAAeltRAAAelqVAAAeljFAAAei",
   "vBAAAeijVAAAehwLAAAegkBAAAecqTAAAeceHAAAebkBAAAdzqXAAAdzcLAAAdxpVAAAdugPAAAdttJAAAdtsPAA",
   "AdtsTAAAdtsFAAAdtrVAAAdtrJABAdtnTAAAdtaDAAAdsvFAAAdrwTAAAdqfLAAAdqdXAAAdpzRAAAdpcHAAAdor",
   "BAAAdnfPAAAdmuXAAAdmuZAAAdlkHAAAdhvJAAAdhlDAAAdgjHAAAdgfBAAAdezPAAAdevPAAAdcuXAAAdckZAAA",
   "cxjTAAAcwnZAAAcwjLAAAempVAAAjovCAAAdndPCAAfamTAAAexuTAAAeyaTAAAezmJAAAeydPAAAexzDAAAexaB",
   "AAAewwFAAAeuwJAAAevbZAAAeuwVAAAeurHAAAesuTAAAesnZAAAescXAAAesbTAAAerhBAAAeqrXAAAenxVAAAe",
   "nxJAAAenmJAAAenhFAAAemkHAAAembHAAAemgTAAAelwNAAAemaDAAAeloZAAAeljZAAAekfHAAAejyPAAAejuNA",
   "AAejaPAAAeieRAAAehsFAAAehrZAAAehnNAAAeekDAAAeefFAAAedbFAAAebvTAAAebxBAAAebqLAAAeaxDAAAdz",
   "xJAAAdveXAAAdziFAAAdyyXAAAdypNAAAdxqLAAAdxfBAAAdxbBAAAdwjTAAAdwjRAAAdvwPAAAdvvJAAAdvtNAA",
   "AdvmZAAAdvnVAAAdujLAAAdsyFAAAdsdLAAAdrpDAAAdqxZAAAdqmHAAAdpmZAAAdoxTAAAdmkVAAAdlyVAAAdjh",
   "FAAAdhyFAAAdhsZAAAdhrVAAAdgvBAAAdgqTAAAdguHAAAdgqFAAAdgqNAAAdgrXAAAdgmDAAAdgfZAAAdfcRAAA",
   "ddlRAAAdcnPAAAdbqZAAAdbaBAAAcxyXAAAcxrBAAAcxiHAAAcwyDAAAcwvLAAAcwuPAAAcwqZAAAcunDAAAcrbV",
   "AAAiuiWAAAiuiIAAAjdcAAAAfovHAAAfllDAAAfliRAAAkadKAAAkicQAAAlhwIAAAcrjLAAAcrdTcPABhdtVcVB",
   "ABhdsBeNKABhdtPdBAABhdtRcZAAChdtTdLKAAChdtVdLMAABhdvVbXAABhdvXbVAABhdvZbNAABhdvZbPAABhdv",
   "ZbRAABhdvZbTAABhdvZbVAABhdvZbXAABhdvZbZBABhdvZcDAABhdvZcFAABhdvZcHAABhdvZcJAABhdvZcLBABh",
   "dvZcPBABhdvZcTAABhdvZcVBABhdvZcZAABhdvZdBBABhdvZdFAABhdvZdHAABhdvZdJAABhdvZdLAABhdvZdNAA",
   "BhdxRcDAABhdyBbJAABhdxJcDAABhdwTcVdzEABShoaFbAABThoaVebLABBcOBABBcKOABLbQfAABGTAABGVuTAB",
   "HRAABJbGcCABBfMBABBeGIABFeGCABBeKbZABFABABJTAABLOjIABDCAABFRBABJIjRABDRAABDTbiIABFJbbgAA",
   "BFAAABHWAABJCAABKTAABNEAACPACAACRWTAACTAEeqPABBAAABLIAACNIAblwDABNbCAABNbAAACPbASAACRbAU",
   "AACTbAWAACVbAYAACXbAbAdIABDgLAABDgNAACHgLSAACHgNSAACLgLUAACLgNUehlFAAtwjLAAAtwjXAAAtwjHA",
   "AAhezPAAAtvnJAAAtvhLAAAtvgNAAAtvbDAAAturZAAAtupRAAAtujTAAAtulRAAAupuXAAAhbeBAAAtucFAAAtu",
   "bTAAAtuaPAAAttzFAAAhcaLAAAuptJAAAtuaRAAAttxVAAAhbxDAAAttxFAAAttwHAAAtwaJAAAttvVAAAttvFAA",
   "AczlHAAAttqLAAAttpLAAAuprJAAAttlHAAAttkNAAAtthFAAAttgXAAAupnPAAAttaXAAAttaVAAAtsyVAAAtsx",
   "FABAtswLAAAtsvFAAAtsrLAAAtsqXAAAtsqHAAAtsoLAAAtsnTAAAtsnRAAAtsnTAAAtsnVAAAgyhJAAAswqBAAA",
   "tsiHAAAtsgTAAAgxjTAAAtsfZAAAtsfPAAAtseBAAAtrsLAAAtsaJAAAtrzFAAAtrwVAAAtrsLAAAtrmBAAAtrkD",
   "AAAtrfBAAAtrdXAAAtrbLAAAtrbNAAAtqzZAAAtqyRAAAtqyDAAAtqxBAAAtpwZAAAtqrZAAAtpxBAAAtqmJAAAt",
   "qjTAAAttsZAAAtonDAAAtpjJAAAtpgNAAAtpeRAAAtpoTAAAtpbZAAAtpcDAAAtosTAAAgqhDAAAtonNAAAtonFA",
   "AAtomDAAAtokRAAAtokDAAAtofHAAAgoyXAAAgotXAAAtnuXAAAtnrJAAAtnqNAAAtnwRAAAtnlVAAAuoiJAAAuo",
   "hJAAAtmzPAAAtmvNAAAtmvPAAAgmqHAAAtmlNAAAtmjZAAAtmiXAAAtmiBAAAglqVAAAtmhHAAAtmgVAAAtjtXAA",
   "AtmeVAAAunyFAAAtmaFAAAtlzFAAAtlsZAAAtlwZAAAgjoNAAAtljDAAAgjoNAAAtlfZAAAtlgHAAAtlfBABAtkx",
   "JAAAunlVAAAtkvLAAAtksFAAAtkqRAAAtknJAAAuniHAAAggwHAAAungLAAAtkiFAAAtkiBAAAtkhXAAAtkgLAAA",
   "cmjPAAAtkcPAAAgfpVAAAgfpXAAAsjpJAAAtkaDAAAtkaFAAAunbPAAAftwNAAAekeLAAAtjvPAAAtjuZAAAumzV",
   "AAAtjrNAAAtjnRAAAtjmZAAAtjkLAAAtjaBAAAumtPAAAumvZAAAtiyVAAAgcxRAAAtivBAAAtilFAAAtikZAAAt",
   "ikXAAAtilDAAAtihRAAAtigFAAAtidNAAAtieRAAAtidXAAAtiaJAAAthyXAAAthyRAAAthwTAAAthvZAAAthqZA",
   "AAthkPAAAthhZAAAtgyNAAAfzuDAAAthaDAAAthfFAAAtgwZAAAtguZAAAtgnPAAAfzcZAAAtgiZAAAtgqFAAAtg",
   "sLAAAumdJAAAtgdVAAAtgcHAAAtfzZAAAtgcZAAAulyZAAAtfmNAAAtfkJAAAfwbFAAAtfbJAAAtegDAAAtetRAA",
   "AulmFAAAteoHAAAulnRAAAulqNAAAtulZAAAtulVAAAtegDAAAtenXAAAskuRAAAuewPAAAteeRAAAteeLAAAtee",
   "BAAAtdzLAAAteaJAAAfthJAAAuljTAAAtdnTAAAtdwVAAAtdhDAAAtddHAAAfsuTAAAtdcTAAAtdlJAAAtcsPAAA",
   "uldZAAAtcpFAAAtchVAAAtccLAAAtbnXAAAfrdXAAAtbkDAAAukvBAAAtbeXAAAfpqNAAAtbbDAAAukrFAAAtayZ",
   "AAAtavPABAtatPAAAfofRAAAgkoVAAAfnxLAAAtaiPAAAfmoZAAAtaaBAAAszzBAAAtagZAAAsztPAAAszqPAAAs",
   "zmHAAAszqNAAAsznNAAAszmLAAAszlNAAAfmiHAAAszrXAAAsyyRAAAsytXAAAukbLAAAsymXAAAsynHAAAflbJA",
   "AAszdHAAAsyaRAAAfkqTAAAfknDAAAsxuDAAAsxlJAAAsxnNAAAsxnVAAAujuTAAAsxkJAAAsxgNAAAsxhBAAAsx",
   "cZAAAhcuDAAAswrLAAAfikHAAAswkXAAAfhlFAAAswaHAAAsvzJAAAsvxJAAAffqZAAAsvtVAAAsvsHAAAfeuBAA",
   "AfecZAAAsvaXAAAsuzRAAAujaXAAAsuxVAAAujaDAAAujaFAAAsulPAAAsukBAAAsuiNAAAsuhBAAAsubVAAAuit",
   "BAAAstvBAAAfbaRAAAsttFAAAfatTAAAstpNAAAghhRAAAstdJAAAeylVAAAeykDAAAexzLAAAuicPAAAuibTAAA",
   "ssmHAAAexmHAAAexmLAAAexjNAAAexhPABAssjLAAAssjNAAAssgHAAAuhyTAAAssbLAAAuhxXAAAuhrVAAAevcX",
   "AAAsrmTAAAsriBAAAsrdFAAAuhmHAAAetpFAAAsqsVAAAetgLAAAetdFAAAsqoRAAAsqhRAAAuhgZAAAsqbHAAAs",
   "qaPAAAsqaHAAAercHAAAeqfJAAAeqfLAAAspoJAAAugrJAAAeplRAAAsoxZAAAsoxVAAAugoVAAAeovPAAAsodRA",
   "AAugfTAAAsocDAAAsocPAAAsoaLAAAemoNAAAsnsZAAAufyTAAAsnlLAAAsngZAAAsnbXAAAufvDAAAekpFAAAek",
   "mXAAAufsNAAAekbVAAAsmePAAAejuFAAAsmcRAAAsluZAAAsluFAAAeioVAAAeijHAAAslnLAAAehzFAAAslmJAA",
   "AfubPAAAufjZAAAslhNAAAslbJAAAufgBAAAskwZAAAtobXAAAegmPAAAeglPAAAftyHAAAftxRAAAskiLAAAski",
   "HAAAsaaNAAAuezLAAAsjxRAAAsjyFAAAsjwXAAAtueNAAAsjvNAAAsjvLAAAsjuTAAAsjrRAAAedvHAAAsjrXAAA",
   "sjnRAAAsjiJAAAsjcTAAAsjnLAAAsjbRAAAsiyNAAAsipZAAAsjkBAAAsjaZAAAsjaXAAAsizTAAAeddBAAAecfJ",
   "AAAecqZAAAuemPAAAsieVAAAsieTAAAsicDAAAdxkJAAAshwHAAAeaxLAAAuejHAAAuejBAAAeanLAAAdzrHAAAu",
   "eiNAAAsheRAAAshdVAAAshdBAAAshcZAAAsgyDAAAshaTAAAsgqNAAAsgtZAAAsgiLAAAsgoTAAAsgjRAAAsghRA",
   "AAuebFAAAsgaVAAAsfyLAAAudyVAAAsfrHAAAsfrDAAAdvmXAAAsfiJAAAsfhXAAAuduRAAAsffXAAAuraZAAAdt",
   "uNAAAdtgLAAAudkNAAAudjXAAAsdzXAAAsduBAAAsdiBAAAscsNAAAdquVAAAscmBAAAsckLAAAscdPAAAsbwPAA",
   "AdoxLAAAhbeFAAAsbqJAAAsbrPAAAsbnRAAAhanTAAAsawHAAAsaoRAAAdjxJAAAdjvJAAArzoDAAArzhBAAArze",
   "RAAAdiwZAAArzeBAAAryiFABArxwBAAArydFAAArwzZAAArwxXAAAdfhDAAArvvHAAAubjFAAArvsBAAAdeeDAAA",
   "ubdFAAAruxRAAAtmdNAAAruqLAAAdbhPAAAdarHAAAuatFAAAuasRAAArucHAAAczfLAAAuaoHAAAcyuVAAArtzH",
   "AAArtzJAAArtxDAAAcxyZAAArtjBAAAuaeXAAArtdTAAArsuDAAArssDAAArsnPAAAtztJAAActvTAAArrsPAAAr",
   "qvLAAArqgZAAAtzaBAAAtyxTAAArpzBAAAcppRAAAtyxDAAAcplPAAAcorHAAAcohHAAArozJAAAtyqHAAArouTA",
   "AArouLAAArotZAAArotHAAArosVAAAroqBAAAclsJ"]

def decompositions : List Replacement :=
  Replacement.ofPieces decompositionPieces

/-- The pairs that are one character, in packed form: for each such character how far
it lies from the one before, how far the first one of the pair lies from it, and how
far the second one lies from U+0300. -/
def pairPieces : List String :=
  ["hKjTAAjVCAjXEAjZGAkBQAkDUBkDdAAkBAAkDCAkFEAkHQAkBAAkDCAkFEAkHQBkBGAkBAAkDCAkFEAkHGAkJQCk",
   "DAAkFCAkHEAkJQAkDCCjTAAjVCAjXEAjZGAkBQAkDUBkDdAAkBAAkDCAkFEAkHQAkBAAkDCAkFEAkHQBkBGAkBAA",
   "kDCAkFEAkHGAkJQCkDAAkFCAkHEAkJQAkDCBkHQAoRIAmHIAoVMAmLMAoZdCAmPdCAoZCAmPCApDEAmTEApHOAmX",
   "OApLYAnBYApNYAnDYCpTIAnJIApXMAnNMAqBOAnROAqFdCAnVdCAqJYAnZYAqJEAnZEAqNMAoDMAqROAoHOAqVdA",
   "AoLdAAqXEAoNECrDGAoTGArHIAoXIArLMApBMArPdCApFdCArTODrZEApPEAsBdAApRdABsFCApVCAsJdAApZdAA",
   "sNYAqDYEsVCAqLCAsZdAAqPdAAtDYAqTYDtLIArBIAtPMArFMAtTWArJWCtVCArLCAtZdAArPdAAuDYArTYAuFCA",
   "rVCAuJEArZEAuNdAAsDdAAuRYAsHYAuTdAAsJdAAuXYAsNYCvDGAsTGAvHIAsXIAvLMAtBMAvPUAtFUAvTWAtJWA",
   "vXdCAtNdCAvXEAtNEAvXEAtNEAwBQAwBCAtRCAwFOAtVOAwJYAtZYbHzXcCAxNcCNbaPcCAyFcCbCbeLYAbcBYAb",
   "dZYAbbPYAbdRYAbbHYAbdJYAbaZYAtDIAqTIAtHCAqXCAtLYArBYAtPAArFABvRIAtHIAfKIAfKIAvVIAtLICbfX",
   "YAbdNYAbfTYAbdJYAbfPdCAbdFdCADIADIAeFYAmOYAbdZYDbgZCAbePCCbgTAAbeJAAxTCAvJCAxVCAvLCAwPCA",
   "uFCAbiJbEAbfZbEAbiNbIAbgDbIAbiJbEAbfZbEAbiNbIAbgDbIAbiJbEAbfZbEAbiNbIAbgDbIAbiFbEAbfVbEA",
   "biJbIAbfZbIAbiHbEAbfXbEAbiLbIAbgBbIAbiJbEAbfZbEAbiNbIAbgDbIAbiVcYAbgLcYAbiXcYAbgNcYCbkDY",
   "AbhTYGblHOAbiXOAblDdAAbiTdAAbaDIAxTIAbaJIAxZIAbkVOAbiLOADIADIAbkJIAbhZImZceJCAWCBbACAbCC",
   "AbECBbMCBbUCAcACAeMCZbHQALQAKCAQCASCAUCAcCCZbHQALQAZCAPCAJCEBCADQbRbQAAbOQBbGCDBQEbCCAWA",
   "AbQMKBMbFBMWcBAAcDQBcLCDBQEcPCAcVAAcBMXDbEADbEcVnDMAkTMNoTMAmJMAoXQAmNQCoVMAmLMCDQADQApF",
   "QAmVQApHQAmXQCpNIAnDIApRQAnHQApJQAmZQCDQADQAoRQAmHQApPIAnFIApTQAnJQApXWAnNWApTQAnJQCpTQA",
   "nJQlKKcnMAIcnOAcUcnOAEcnQAcUcnOfXbQcnOBBcnOQBcnOwZBesUHBesUCBesUfUHfcUAJfeSoPBgiECHggIAJ",
   "giGcTDgsCcBHgqEAHgqEALgsCeTDhbWePBhlQGBhlQADhlSBHhkEABhlQeWHhtSAHhtSALhvQfLBieMBFieWABie",
   "MAJigCwLBjzOedBBsiSBBsiSBBsiSBBsiSBBsiSDBsiSbOBsiSBBsiSCDsiSADsiSBBsiSbaYwnTcWAwlJcWAwnV",
   "OAwlLOAwnZcSAwlPcSAwoDdUAwlTdUAweBCAwbRCAwoHOAwlXOAwoLcSAwmBcSAwoPdUAwmFdUAwoTdAAwmJdAAw",
   "oXdMAwmNdMAvzFAAvzFAAvzJCAvzJCAwpHdMAwmXdMAwpLdSAwnBdSAveLMAveLMAwpROAwnHOAwpTIAwnJIAwpV",
   "OAwnLOAwpZcSAwnPcSAwqDQAwnTQAwqHdAAwnXdAAwqLdOAwoBdOAwqNdSAwoDdSAwgJCAwdZCAwqRCAwoHCAwqV",
   "cSAwoLcSAwqZdUAwoPdUAwrBcSAwoRcSADIADIAwrJdUAwoZdUAwrNdMAwpDdMAwrPCAwpFCAwrTOAwpJOAwrXcS",
   "AwpNcSAwrZOAwpPOAwsDcSAwpTcSAwsHdUAwpXdUAwsLdMAwqBdMAwiFCAwfVCAwiJQAwfZQAvzJAAvzJAAvzNCA",
   "vzNCAwtBCAwqRCAwtFOAwqVOAwtFOAwqVOAwtJcSAwqZcSADIADIAwtRdUAwrHdUAwtTOAwrJOAwtXcSAwrNcSAv",
   "zVOAvzVOAvzNOAvzNOALOALOAwuLOAwsBOAwuPcSAwsFcSAwuTdUAwsJdUAwuXdMAwsNdMAwuZcUAwsPcUAwvDdS",
   "AwsTdSAwvHdMAwsXdMAwaHCAwaHCAwaHQAwaHQAwvRGAwtHGAwvVcSAwtLcSAwvXAAwtNAAwwBCAwtRCAwwFQAwt",
   "VQAwwJOAwtZOAwwNcSAwuDcSAwwPOAwuFOAwwTQAwuJQAwwVOAwuLOAwwXEAwuNEAwxBcSAwuRcSAwxFdUAwuVdU",
   "AwwHdUAwvLQAwvHUAwvFUBwbFOExaBcSAwxRcSAxaFSAwxVSAwqLCAwoBCAwqPAAwoFAAwqTSAwoJSAwqXGAwoNG",
   "AXEAXEAwmHCAwmHCAwmLAAwmLAAwmPSAwmPSAwmTGAwmTGAbRMAbRMAxbPcSAwzFcSAxbTSAwzJSAxbXGAwzNGAw",
   "rVCAwpLCAwrZAAwpPAAwsDSAwpTSAwsHGAwpXGAbBEAbBEAxcNSAxaDSAxcRcSAxaHcSAxcJcSAwzZcSAxcNSAxa",
   "DSAwsLCAwqBCAwsPAAwqFAAwsTSAwqJSAwsXGAwqNGAXEAXEAwdNCAwdNCAwdRAAwdRAAwdVSAwdVSAwdZGAwdZG",
   "AweDcSAweDcSAxdTcSAxbJcSAxdXSAxbNSAwdLCAwdLCAwdPAAwdPAAwdTSAwdTSAwdXGAwdXGAweBcSAweBcSAx",
   "eNAAxcDAAxeRcSAxcHcSAxeVSAxcLSAxeZGAxcPGGurTbMAurVbOADAADAAHCAHCALfCALfCAuuVbMAuuXbOADAA",
   "DAAHCAHCALfCALfCAusRbMAusTbOADAADAAHCAHCCuvTbMAuvVbOADAADAAHCAHCCutTbMAutVbOADAADAAHCAHC",
   "ALfCALfCAuwVbMAuwXbOADAADAAHCAHCALfCALfCAuuVbMAuuXbOADAADAAHCAHCALfCALfCAuxXbMAuxZbOADAA",
   "DAAHCAHCALfCALfCAuvPbMAuvRbOADAADAAHCAHCCuyRbMAuyTbOADAADAAHCAHCCuwJbMAuwLbOADAADAAHCAHC",
   "ALfCALfCBuzNbOBDABHCBLfCAuxHbMAuxJbOADAADAAHCAHCALfCALfCAvaJbMAvaLbOADAADAAHCAHCALfCALfC",
   "AvaJABvaFABvaFABvaFABuzXABuzPABuzLADjVfIAjVfIAjVfIAjVfIAjVfIAjVfIAjVfIAjVfIAjVfIAjVfIAjV",
   "fIAjVfIAjVfIAjVfIAjVfIAjVfIAiPfIAiPfIAiPfIAiPfIAiPfIAiPfIAiPfIAiPfIAiPfIAiPfIAiPfIAiPfIA",
   "iPfIAiPfIAiPfIAiPfIAeXfIAeXfIAeXfIAeXfIAeXfIAeXfIAeXfIAeXfIAeXfIAeXfIAeXfIAeXfIAeXfIAeXf",
   "IAeXfIAeXfIAvfHMAvfJIAfBfIAvfNfIAvfZfIBvfTfCABfIAviJMAviLIAviNABviRfIExoJfCAfZfIAvgHfIAv",
   "hBfIBvgNfCABfIAvjHABvjHABvjLfIAbBAAbDCAbFfCAvhDMAvhFIAvfZADvhPfCAvgJfCAvkFMAvkHIAvkJACcO",
   "AAcMCAcKfCAvhLMAvhNIAvhDABviBbMAviDbOAvhXfCAvhNfCAvkNMAvkPIAvkRABvlDbOAxrTAEjBfIAviPfIAv",
   "iHfIBviVfCABfIAvmFABvlPABvlTfIpXTeIAReISbZeIbEGeIAMeIAGeIcABeIEBeICBeIXBeIBBeIbAJeICBeIC",
   "DeIBBeIWzwFeIBBeIKcLeIAzxJeIAzxHeIAXeIAXeICDeIADeICDeIADeIGLeIALeICDeIADeICDeIADeIbITeIA",
   "JeIAJeIAHeIbWhReIAhReIAgFeIAgFeIGeHeIAeHeIAeHeIAeHeIfbQBbinYBBbinYBBbinYBBbinYBBbinYBBbi",
   "nYBBbinYBBbinYBBbinYBBbinYBBbinYBBbinYCBbinYBBbinYBBbinYGBbinYADbioABBbinYADbioABBbinYAD",
   "bioABBbinYADbioABBbinYADbioAWfZbinYJBbinYNBbinYBBbinYBBbinYBBbinYBBbinYBBbinYBBbinYBBbin",
   "YBBbinYBBbinYBBbinYBBbinYCBbinYBBbinYBBbinYGBbinYADbioABBbinYADbioABBbinYADbioABBbinYADb",
   "ioABBbinYADbioAWfZbinYCPbinYAPbinYAPbinYAPbinYDBbinYdcpESObATOebLBhwhOBBhwhOOLhwhOfAGhwp",
   "YAGhwpYuTHhyfCAJhyhAcCBhypUBBhyoSIFhypGCBhypUbZFhypGBJhyoMALhypUjIDhziIAFhzhOBJhziOjRDia",
   "bEADiabEbiIFicsEbbgAFkfeQAHkffMAJkfeSAKkfeSANkfeUAJkfeSAJkfeSANkfeUeqPBkomOALkomOABkomO"]

structure Pair where
  composite : Nat
  first : Nat
  second : Nat
deriving Repr

def readPairs : Nat → List Nat → List Pair
  | next, gap :: first :: second :: rest =>
      let composite := next + gap
      ⟨composite, Packed.shifted composite first, Packed.shifted 0x300 second⟩ ::
        readPairs (composite + 1) rest
  | _, _ => []

def pairs : List Pair :=
  readPairs 0 (Packed.numbers (String.join pairPieces))

/-- The classes of marks in packed form: for each range of marks of one class how far
it lies from the one before, how many follow the first one, and the class. -/
def classPieces : List String :=
  ["bdOUiWAAiYADiMAAiYAAiIAEiMABhUADiMABhUAKiMAEBADiMAHiWAAjGAAiWACiMACiWABiMBCiWADiMAAiWAAi",
   "YABiMAAiWAAiZABjAAAiZABjAAAiZAMiWkPEiWkFAiMADiWAAiMACiWAAiOAAiMAFiWAFiMABiWAAiMABiWAAiOA",
   "AiUAAiWAAKAALAAMAANAAOAAPAAQAARAASABTAAUAAVAAWBAXBAYAAZBAiWAAiMBAScUHiWAAbEAAbFAAbGbWAbB",
   "AAbCAAbDAAbEAAbFAAbGAAbHAAbIABiWABiMAEiWAAiMABiWAAiMQAbJdXGiWCDiWAAiMAAiWCBiWBAiMABiWAAi",
   "MbJAbKbEAiWAAiMABiWAAiMABiWACiMAAiWABiMAAiWAAiMACiWAAiMAAiWAAiMAAiWAAiMAAiWAAiMABiWgEGiW",
   "AAiMAAiWJAiMYDiWBIiWBCiWBEiWbRCiMcHBiWACiMADiWbQEiWAEiMANiWBAiMABiWAAiMABiWAAiMACiWACiMA",
   "AbBAAbCAAbDACiWAAiMABiWABiMAEiWcIAHQAJDAiWAAiMABiWdZAHQAJbWAiWcJAHQAJeGAHQAJeGAHQAJeXAJe",
   "GAHQAJHAdGAAdNdXAHQAJeFBJQAJeUAJeFBdZAAJNDeDeEBeOAAJNDeScYBiMbBAiMBAiMBAiIcDAeZAAfABAfCF",
   "DfACAfABBiWAAJBBiWcKAiMeIAHBBJdEAiMbbRCiWbkMBJbEAJgBAJKAiWhVAiUfNAiOAAiWAAiMiLAiWAAiMcTA",
   "JUHiWCAiMbWEiWAFiMABiWAAiMBBiMABiWABiMAEiWAAiMARiWAAiMCFiWAAiMADiWAAjAcUAHPAJbMAiWAAiMAG",
   "iWcCBJcGAHLBJcPAHfWCiWBABAEiMABiWADiMAAiWBGBEAiMGAiWDBiWhQBiWAAiMAGiWAAiMABiWAAjAAAiGAAi",
   "MAAhUAbKiWAAiYABiUAAiMAAiKAAiWAAiZAAiMAAiWAAiMbbSBiWABBADiWACBABiWEAiWDBBAAiWAAiMAAiWABB",
   "ADiMAAiWeoCCiWfLAJdSbFiWvIAiKAAiUAAiYAAiOABiQeBBIbsqEAiWEJiWbGBiWdCBiWkQAJbLAJfVAJbBRiWc",
   "FCiMbLAJdRAHMAJjFAiWBBiWAAiMCBiWFBiWBAiWcAAJjMAJbdzSAbAbdPGiWAGiMABiWblLAiMiSAiMfTEiWcmS",
   "AiMBAiWbOAiWAABAAiMEAJgJAiWAAiMwBDiWcNEiWmFBiWcZBiMBCiMcSBiMACiWAAiMAAiWADiMbXAiWAAiMAAi",
   "WAAiMhKAJbPAJOAJcFAJAAHcRCiWbWBJcKAHcYAJJAHeCAJAAHgWAHAAJdCBHQAJYGiWDEiWdLCJeJAJDAHXAiWd",
   "VAJAAHjRAJAAHeWAJeOAJAAHeLAJkJAJAAHjYBJEAHgAAJdFAJSAJdDAJqFAJjYAHBBJdDAJqJBJyzCAJdsAEBcH",
   "GiWbuNBGbdaYABhwOBiIACBDAiSAEiIIHiMCEiWABiMbEDiWfSCiWffFGiWBQiWCGiWBBiWBEiWdWAiWgEGiWoLA",
   "iWcJDiWtOBiYAAiMAAiWjUAiWAAiMjJAiWCAiWHBiWFAiWsGGiMeFFiWAAH"]

structure MarkRange where
  first : Nat
  last : Nat
  order : Nat
deriving Repr

def readClasses : Nat → List Nat → List MarkRange
  | next, gap :: more :: order :: rest =>
      let first := next + gap
      ⟨first, first + more, order⟩ :: readClasses (first + more + 1) rest
  | _, _ => []

def classes : List MarkRange :=
  readClasses 0 (Packed.numbers (String.join classPieces))

/-- The class of a character: marks of different classes do not touch each other.
Characters that are no such marks have class zero. -/
def classOf (n : Nat) : Nat :=
  ((classes.find? fun r => r.first ≤ n && n ≤ r.last).map (·.order)).getD 0

def letters? (n : Nat) : Option (List Nat) :=
  if 0xAC00 ≤ n ∧ n ≤ 0xD7A3 then
    let place := n - 0xAC00
    let front := [0x1100 + place / 588, 0x1161 + place % 588 / 28]
    some (if place % 28 = 0 then front else front ++ [0x11A7 + place % 28])
  else none

def decomposed (n : Nat) : List Nat :=
  match letters? n with
  | some letters => letters
  | none => (Replacement.find? decompositions n).getD [n]

/-- Puts a mark before those of a higher class at the end of what is read, last one
first. -/
def insertMark (n order : Nat) : List (Nat × Nat) → List (Nat × Nat)
  | [] => [(n, order)]
  | (m, other) :: rest =>
      if order != 0 && order < other then (m, other) :: insertMark n order rest
      else (n, order) :: (m, other) :: rest

def ordered (ns : List Nat) : List (Nat × Nat) :=
  (ns.foldl (fun read n => insertMark n (classOf n) read) []).reverse

def syllable? (a b : Nat) : Option Nat :=
  if 0x1100 ≤ a ∧ a ≤ 0x1112 ∧ 0x1161 ≤ b ∧ b ≤ 0x1175 then
    some (0xAC00 + ((a - 0x1100) * 21 + (b - 0x1161)) * 28)
  else if 0xAC00 ≤ a ∧ a ≤ 0xD7A3 ∧ (a - 0xAC00) % 28 = 0 ∧ 0x11A8 ≤ b ∧ b ≤ 0x11C2 then
    some (a + (b - 0x11A7))
  else none

def joined? (a b : Nat) : Option Nat :=
  (syllable? a b).orElse fun _ =>
    (pairs.find? fun p => p.first = a && p.second = b).map (·.composite)

/-- Joins what follows with the last character that is no mark.  `kept` are the marks
after it that stay, last one first, with their classes; the last of them hides what has
no higher class. -/
def composeFrom (starter : Nat) (kept : List (Nat × Nat)) : List (Nat × Nat) → List Nat
  | [] => starter :: kept.reverse.map (·.1)
  | (n, order) :: rest =>
      let hidden := kept.head?.any fun (_, last) => order ≤ last
      match if hidden then none else joined? starter n with
      | some one => composeFrom one kept rest
      | none =>
          if order = 0 then starter :: kept.reverse.map (·.1) ++ composeFrom n [] rest
          else composeFrom starter ((n, order) :: kept) rest

def compose : List (Nat × Nat) → List Nat
  | [] => []
  | (n, order) :: rest =>
      if order = 0 then composeFrom n [] rest else n :: compose rest

end Composition

def composed (cs : List Char) : List Char :=
  (Composition.compose
    (Composition.ordered (cs.flatMap fun c => Composition.decomposed c.toNat))).map Char.ofNat

end FleetMonitor.Text
