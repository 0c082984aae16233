/-!
Character classes as sorted boundary points: a code point is in the class iff an odd number of boundaries are at most it. The
tables follow the Unicode character database and give each boundary by its distance from the last. The last place of a
number, of 36, is a figure or a capital, and small letters, of 26, are the places before it.
-/

set_option autoImplicit false

namespace InfraAudit.Text

structure BoundReader where
  high : Nat := 0
  last : Nat := 0
  bounds : Array Nat := #[]

def BoundReader.read (r : BoundReader) (c : Char) : BoundReader :=
  if c.isWhitespace then r
  else if c.isLower then {r with high := 26*r.high+(c.toNat - 97)}
  else
    let low := if c.isDigit then c.toNat - 48 else c.toNat - 55
    let bound := r.last+36*r.high+low
    {last := bound, bounds := r.bounds.push bound}

def boundsIn (text : String) : Array Nat := (text.toList.foldl BoundReader.read {}).bounds

def decimalBounds : Array Nat := boundsIn
  "btCAdQAfIAlGAdAAdAAdAAdAAdAAdAAdAAdAAdAAcOAdAAbYAhQAbYAbzQAb2AiCAdKAeMA6Af2AcEAdQA6AblrQAsUAb2AfIAMAcEAlAAwsUAbnA
  AciMAwKAdKAbOAe0AhQAjIAdAAkEAcUAcUAlQAcUAv2AgUAbYAuzIAcEAdQAbdr8bEcnSAlQAbt2Afc6A"

def otherDigitBounds : Array Nat := boundsIn
  "eY251fcV9btK1buT1366AbbA9B9B9cH1A911rI91919cjzX4bd89nL9cjlHB"

def otherNumericBounds : Array Nat := boundsIn
  "f83cnH6kG6dC3dP7g17H9m1Abe6ByH3h3AcoEbF25uFB9B9Bc7A91rS19191bmH1vL1P9E3jJ4dUAU81FWAb3Fj11dH1zY1wA1fcY1213111cB1bA
  17111b42U181b01cQ1l71bT1Y11111mZ11361d84vY1oT171bn41dN2C311bbX1c51bg51bz71bgF1uN1ctB1zX1ciH141dG1clK1b0151b71dH1ej
  BAiW6wfH17141bL1U111b51by1b9CbLH2jHRb04T181dQ5bg28P7b39c35M6eG22G2bAbW5bG2U3c35cW8O8b57j66k1MeEAb64d47dZBkJKblH2lY
  9y7JxNLbdNd3tkC7w6Nbbl5Kd0PfvI9zTbN1314c4b91Fbb12ecC1cQ1dH1bQ1cf41cG181F1j91I1R1grY1bqV1euI1ktL1bpbM1"

def alphabeticBounds : Array Nat := boundsIn
  "eQ1A1415N1V1mQ4CE57111dL51224116113111K1cB1dV8eM1b2216b5bZR44b9b7Z21cR11F272A321G11UTcHB1OX92415M419131NP7B5O16Hb
  6bMbI31I17AFG48222M17113431G1D213E2A186422M17121212V411J3G9131M17121531I1F2N1B8222M17121531U213F1H1163314321112323
  33CM1bG8131N1G31Q32122U148131N1A1531V212F2H9131b521G15383O65I3O191127bMbC12C7bM211151O111A12912511L4W1bR81b0R5d7b7
  K1G6443132734DC1Hb211512b71j9142711142b5142X142711142F1bL142bVb1GGcE263r82H1Q5c3687IDJEIED13FbGZ141bVcH752Y115bYAV
  bDU25Bb84QbIN9bHcA1cLbBH8bIUD2Ab8Qb0b53Ab0297b723b541612315fCbShQ262b226281111111V2bH1711331734264D5317d81D1GDcT14
  12A1135611111141B245541bG2cwJgD6432Cb211512bK71GN9717171717171717c81n12b65524cE631cI145b71cMHWbCGo8hb4bSxrHbVbA2hH
  3GA2KbBGV2bYbD92cV2bS521115OG13141NTbGEbEbQ63112BSANPT7bBS1G51AA51b5N318KN313bE1132252111O32B73C6262697171b71E6d7T
  lyCCN4bDjaSk62cYb27C5511A1D151112121d0Xk3IbS2bIb4Cd851dRb0Q6QBcH36262623ZC1Q1J121F2EYdFkTT3bDbBWDK186b2AU2b048bCeE
  Ib04b04b48bGCB1F17121B1F1712bViN9MA8O61b619bX6211b812312NAN9VbTJ12AMAQbYbK62bS1F4131Tb6T3TZ81SRbIAMAJDId2c1bJbFDbF
  Db0jOb662c6TA18Mb6IbALRNCbHbL221Db9WPQb0T1218Z31CbCE4L111ZI1PcC711141F1A7bBb28222M17121531I1C5eEbHI4K3UbCK211f4bBb
  54b0bCK1bNb7D1bZRb17f5b8d8bSV82128121OF111cM82b3G111S1Ab471L1BbAJ1Ic1hB91b1H1bDUd47121b2L1P6121WE1j3Jf91c7zMgEfGcv
  8cPFbdReiHq7jfTpT7VHc7HUIbCG4VL5Jt4bSdKc351bUDbS211SgoG8biEb69jo7417121i3b93H48l0cm4cZ5D397AgkEcD1bZ122122241C1117
  1bT1428171S141511371jG2P1P1V1P1V1P1V1P1V1P18bz8VnDb9A7G1iXUIb8bj8714121F1fHbNbW71bhG41R1211211A1411116141111113121
  12111111111121124171414111A1H53151HesSbtqOWelD7g62ge2EhzLdi7p2bpUfh7"

def otherPrintableBounds : Array Nat := boundsIn
  "eH9121421132131N1V1mQ4CE57111dL51815211d21dV8fS6b52231bJb72HM13b7LA421cR1171727F21E31URcJBbM92433M41913152FQ321b5
  1F8b6O1XbI31I17A4A1G3bK117222391A2E2621223bK115422331U232A3bK1181313K2C28613bK117222373A2C1H1bN5331491R855bJ117131
  472B2J17114bJ117131472B2S4bJ21713141171A2L173bY1461118I3bO1274179A2cD129B6bFVKCbDN5B1b01F1Dc8KB66443132734DC11A6cJ
  1qXCb3AcU1r82b82c63b04S5R2U2bSZ1411YE11d92Y1dAC4C4132e8YN522bHA1T21W7162VbD5bBHLb113UDbKE84b0K35bQ2bS88P416123fIbS
  mD113B3D3D3D2HO8bBR5B5HXFXF21412A1135611111141B2455411bM24sFPBc9c6MrIUbbK2W1cXgD6437412d41E1cOc71bAYQ1cHCfYQC543P9
  75253cH431cI1e424AWb0SVBU81FWAb3FiWhb4bSxrKbJbJ2hH3cNGV2c888N92cV2dB13141NA94bM482bEI82GI631121b2ANDB1W4bBRG251bVE
  C182E4N313bE113225211S2B732cS1E2dBBvr41A1dSHkJIdJ1b8U6bF1J14e5FA7Q6QBdE717D2h63bG9bLH231D31bBbAgA1e55b01bC1lI1uN1V
  2eM1V1fD31254b4341G9b21c01S297bU7cH4kV4kR3e8B45b48dA3bHMY122A4b9D15bP3b0EB412b83A3bCE4BB113c4JcY1bHCL4bJ217222391A
  22735fCI45A212c9K21gG72W42cAKSDbQD11cRFG4gKGgS612241115dU7271111SAb471D9BbAJ15l081815b62WM1EdE631121711bU51215jN6g
  4TD1bfK5ddO2pzV2dK6bMG42xL4f011bJ74c7111B2uz64faObA2N9d8bOgUAb32c28d4LbYf6cFyA1P1V1P1V1P1V1P1V1P1bOs4F51FblS71H271
  215h97O1jQ1bP4F1bpC7d17J2xG131dH1mH2hIb84cSCF2F1F1b1NeHbKTDb84972E6eAbbC5G3D3d8CcH7C41FC4bK8A6b48U22c6jGCE2535379T
  3B56AA68879e31bJbgjqDgO"

def rankIn (bounds : Array Nat) (c : Nat) : Nat → Nat → Nat → Nat
  | 0,lo,_ => lo
  | fuel+1,lo,hi =>
    if lo < hi then
      let mid := (lo+hi) / 2
      if bounds.getD mid 0 ≤ c then rankIn bounds c fuel (mid+1) hi
      else rankIn bounds c fuel lo mid
    else lo

def inClass (bounds : Array Nat) (c : Char) : Bool := rankIn bounds c.toNat (bounds.size+1) 0 bounds.size % 2 == 1

variable (c : Char)

def isAscii : Bool := c.toNat < 128

def isDecimal : Bool := if isAscii c then c.isDigit else inClass decimalBounds c

def decimalValue? : Option Nat :=
  if isAscii c then (if c.isDigit then some (c.toNat - 48) else none)
  else
    let rank := rankIn decimalBounds c.toNat (decimalBounds.size+1) 0 decimalBounds.size
    if rank % 2 == 1 then some ((c.toNat - decimalBounds.getD (rank - 1) 0) % 10) else none

def plainDigit : Char := (decimalValue? c).elim c fun n => Char.ofNat (48+n)

def isDigitLike : Bool := if isAscii c then c.isDigit else isDecimal c || inClass otherDigitBounds c

def isNumericLike : Bool := if isAscii c then c.isDigit else isDigitLike c || inClass otherNumericBounds c

def isAlphabetic : Bool := if isAscii c then c.isAlpha else inClass alphabeticBounds c

def isAlphanumeric : Bool := isAlphabetic c || isNumericLike c

def isWord : Bool := c == '_' || isAlphanumeric c

def isPrintable : Bool :=
  if isAscii c then 32 ≤ c.toNat && c.toNat ≠ 127 else isAlphanumeric c || inClass otherPrintableBounds c

def isBlank : Bool :=
  let n := c.toNat
  (9 ≤ n && n ≤ 13) || (28 ≤ n && n ≤ 32) || n == 0x85 || n == 0xa0 || n == 0x1680 ||
    (0x2000 ≤ n && n ≤ 0x200a) || n == 0x2028 || n == 0x2029 || n == 0x202f || n == 0x205f || n == 0x3000

def isLineBreak : Bool :=
  let n := c.toNat
  (10 ≤ n && n ≤ 13) || (28 ≤ n && n ≤ 30) || n == 0x85 || n == 0x2028 || n == 0x2029

end InfraAudit.Text
