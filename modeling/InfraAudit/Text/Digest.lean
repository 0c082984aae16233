namespace InfraAudit.Text

namespace Sha256

def constants : Array UInt32 := #[
  0x428a2f98,0x71374491,0xb5c0fbcf,0xe9b5dba5,0x3956c25b,0x59f111f1,0x923f82a4,0xab1c5ed5,
  0xd807aa98,0x12835b01,0x243185be,0x550c7dc3,0x72be5d74,0x80deb1fe,0x9bdc06a7,0xc19bf174,
  0xe49b69c1,0xefbe4786,0x0fc19dc6,0x240ca1cc,0x2de92c6f,0x4a7484aa,0x5cb0a9dc,0x76f988da,
  0x983e5152,0xa831c66d,0xb00327c8,0xbf597fc7,0xc6e00bf3,0xd5a79147,0x06ca6351,0x14292967,
  0x27b70a85,0x2e1b2138,0x4d2c6dfc,0x53380d13,0x650a7354,0x766a0abb,0x81c2c92e,0x92722c85,
  0xa2bfe8a1,0xa81a664b,0xc24b8b70,0xc76c51a3,0xd192e819,0xd6990624,0xf40e3585,0x106aa070,
  0x19a4c116,0x1e376c08,0x2748774c,0x34b0bcb5,0x391c0cb3,0x4ed8aa4a,0x5b9cca4f,0x682e6ff3,
  0x748f82ee,0x78a5636f,0x84c87814,0x8cc70208,0x90befffa,0xa4506ceb,0xbef9a3f7,0xc67178f2]

def start : Array UInt32 := #[0x6a09e667,0xbb67ae85,0x3c6ef372,0xa54ff53a,0x510e527f,0x9b05688c,0x1f83d9ab,0x5be0cd19]

def rotr (x : UInt32) (n : UInt32) : UInt32 := (x >>> n) ||| (x <<< (32 - n))

def padded (bytes : List UInt8) : List UInt8 :=
  let n := bytes.length
  let zeros := (119 - n % 64) % 64
  let bits := 8*n
  let length := (List.range 8).map fun i => (bits >>> (8*(7 - i))).toUInt8
  bytes ++ (0x80 :: List.replicate zeros 0) ++ length

def words : List UInt8 → List UInt32
  | a::b :: c :: d :: r =>
    ((a.toUInt32 <<< 24) ||| (b.toUInt32 <<< 16) ||| (c.toUInt32 <<< 8) ||| d.toUInt32) :: words r
  | _ => []

def extend : Nat → Array UInt32 → Array UInt32
  | 0,w => w
  | n+1,w =>
    let at_ (k : Nat) : UInt32 := w.getD (w.size - k) 0
    let s0 := rotr (at_ 15) 7 ^^^ rotr (at_ 15) 18 ^^^ (at_ 15 >>> 3)
    let s1 := rotr (at_ 2) 17 ^^^ rotr (at_ 2) 19 ^^^ (at_ 2 >>> 10)
    extend n (w.push (at_ 16+s0+at_ 7+s1))

structure Work where
  a : UInt32
  b : UInt32
  c : UInt32
  d : UInt32
  e : UInt32
  f : UInt32
  g : UInt32
  h : UInt32

def round (w : Work) (k : UInt32) : Work :=
  let s1 := rotr w.e 6 ^^^ rotr w.e 11 ^^^ rotr w.e 25
  let ch := (w.e &&& w.f) ^^^ ((~~~ w.e) &&& w.g)
  let t1 := w.h+s1+ch+k
  let s0 := rotr w.a 2 ^^^ rotr w.a 13 ^^^ rotr w.a 22
  let maj := (w.a &&& w.b) ^^^ (w.a &&& w.c) ^^^ (w.b &&& w.c)
  ⟨t1+s0+maj,w.a,w.b,w.c,w.d+t1,w.e,w.f,w.g⟩

def compress (s : Array UInt32) (block : Array UInt32) : Array UInt32 :=
  let at_ (i : Nat) : UInt32 := s.getD i 0
  let w := extend 48 block
  let r := (List.range 64).foldl (fun r i => round r (constants.getD i 0+w.getD i 0))
    ⟨at_ 0,at_ 1,at_ 2,at_ 3,at_ 4,at_ 5,at_ 6,at_ 7⟩
  #[at_ 0+r.a,at_ 1+r.b,at_ 2+r.c,at_ 3+r.d,at_ 4+r.e,at_ 5+r.f,at_ 6+r.g,at_ 7+r.h]

def blocks : Nat → List UInt32 → Array UInt32 → Array UInt32
  | 0,_,s => s
  | n+1,ws,s => blocks n (ws.drop 16) (compress s (ws.take 16).toArray)

def hexWord (x : UInt32) : String :=
  let digits := Nat.toDigits 16 x.toNat
  String.ofList (List.replicate (8 - digits.length) '0' ++ digits)

end Sha256

def sha256 (s : String) : String :=
  let ws := Sha256.words (Sha256.padded s.toUTF8.toList)
  String.join ((Sha256.blocks (ws.length / 16) ws Sha256.start).toList.map Sha256.hexWord)

end InfraAudit.Text
