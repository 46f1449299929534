import SkaleAdmin.Dkg.Structures

/-! Conversions between the texts of SGX, of broadcast events and of
transaction arguments. -/

namespace SkaleAdmin.Dkg

open Interaction PyText

def convertG2Point (point : List Text) : Except PyError G2Point :=
  match point.mapM (parseInt 10) with
  | none => .error .valueError
  | some [xa, xb, ya, yb] => .ok ⟨xa, xb, ya, yb⟩
  | some _ => .error .typeError

/-- The points that iterating over a vector yields: a text is iterated
character by character. -/
def VerificationVector.asPoints : VerificationVector → List (List Text)
  | .hex text => text.map fun symbol => [[symbol]]
  | .points coordinates => coordinates

def convertG2PointsToArray (data : VerificationVector) :
    Except PyError (List G2Point) :=
  data.asPoints.mapM convertG2Point

theorem convertG2Point_ne (point : List Text) (message : String) :
    convertG2Point point ≠ .error (.sgxUnreachableError message) := by
  unfold convertG2Point
  split <;> nofun

theorem convertG2PointsToArray_ne (data : VerificationVector) (message : String) :
    convertG2PointsToArray data ≠ .error (.sgxUnreachableError message) := by
  unfold convertG2PointsToArray
  induction data.asPoints with
  | nil => nofun
  | cons point rest ih =>
      rw [List.mapM_cons]
      cases converted : convertG2Point point with
      | error error =>
          intro same
          cases same
          exact convertG2Point_ne point message converted
      | ok first =>
          cases others : rest.mapM convertG2Point with
          | error error => exact fun same => ih (others.trans same)
          | ok points => nofun

def convertCoordToHex (coord : Text) : Option Text :=
  (parseInt 10 coord).map fun value =>
    let temp := (hex value).drop 2
    List.replicate (64 - temp.length) '0' ++ temp

def convertG2PointToHex (point : List Text) : Option Text :=
  (point.mapM convertCoordToHex).map List.flatten

def convertG2ArrayToHex (data : VerificationVector) : Option Text :=
  (data.asPoints.mapM convertG2PointToHex).map List.flatten

def convertHexPoint (cur : Text) : Option (List Text) :=
  [0, 1, 2, 3].mapM fun i =>
    (parseInt 16 (slice cur (64 * i) (64 * i + 64))).map str

/-- The loop of `convert_hex_to_g2_array`, which goes round at most once for
each character of its data. -/
def convertHexPoints : Nat → Text → Option (List (List Text))
  | 0, _ => some []
  | _ + 1, [] => some []
  | rounds + 1, data => do
      let point ← convertHexPoint (data.take 256)
      let rest ← convertHexPoints rounds (data.drop 256)
      return point :: rest

def convertHexToG2Array (data : Text) : Option (List (List Text)) :=
  convertHexPoints data.length data

def convertStrToKeyShare (sentSecretKeyContribution : Text) (n : Nat) :
    Option (List KeyShare) :=
  (List.range n).mapM fun i =>
    (bytesFromHex (slice sentSecretKeyContribution (i * 192) (i * 192 + 64))).map
      fun share =>
        { publicKey :=
            slice sentSecretKeyContribution (i * 192 + 64) ((i + 1) * 192)
          share }

def toVerify (share : Text) : Text :=
  slice share 128 192 ++ share.take 128

def convertKeyShareToStr (data : Text) (n : Nat) : Text :=
  ((List.range n).map fun i =>
    toVerify (slice data (i * 192) ((i + 1) * 192))).flatten

end SkaleAdmin.Dkg
