import FinancialOs.Library.MessagePrograms
import FinancialOs.Library.PythonScalars

/-! The ceiling on the body of a request: a middleware in front of the application, which counts the body while it
arrives. -/
namespace FinancialOs.Routers
open Library

/-- What the server hands to an application. -/
inductive AsgiMesaji where
  | httpRequest (body : Option (List UInt8)) (moreBody : Bool)
  | diger (tur : String)
  deriving DecidableEq

/-- What an application hands to the server. -/
inductive AsgiYaniti where
  | start (status : ℕ) (headers : List (String × String))
  | body (govde : String)
  | diger (tur : String)
  deriving DecidableEq

inductive AsgiHatasi where
  | govdeCokBuyuk (azamiBayt : ℕ)
  | diger (metin : String)
  deriving DecidableEq

abbrev AsgiApp := Talk AsgiMesaji AsgiYaniti AsgiHatasi

abbrev AsgiAkisi := List (Except AsgiHatasi AsgiMesaji)

/-- The scope of a connection; the header names are lower case. -/
structure AsgiScope where
  tur : String
  headers : List (String × String)

/-- `VARSAYILAN_AZAMI_BAYT`. -/
def varsayilanAzamiBayt : ℕ := 1024 * 1024

/-- `azami_govde_bayt`, from the environment variable. -/
def azamiGovdeBayt (ortam : Option String) : ℕ :=
  let ham := NumberText.strip (ortam.getD "").toList
  if ham = [] then varsayilanAzamiBayt
  else match NumberText.readInt (String.ofList ham) with
    | none => varsayilanAzamiBayt
    | some deger => if deger ≤ 0 then varsayilanAzamiBayt else deger.toNat

def icerikUzunlugu (scope : AsgiScope) : Option ℤ :=
  (scope.headers.find? fun h => h.1 = "content-length").bind fun h => NumberText.readInt h.2

/-- `_sayan_receive`: what comes instead of a message, with the bytes that were read so far. -/
def sayanReceive (azami okunan : ℕ) (mesaj : Except AsgiHatasi AsgiMesaji) : ℕ × Except AsgiHatasi AsgiMesaji :=
  match mesaj with
  | .ok (.httpRequest body _) =>
    let okunan := okunan + (body.getD []).length
    (okunan, if azami < okunan then .error (.govdeCokBuyuk azami) else mesaj)
  | _ => (okunan, mesaj)

/-- `_reddet`. -/
def govdeReddi (azami : ℕ) : List AsgiYaniti :=
  let govde := "\x7b\"detail\":\"Istek govdesi cok buyuk. Azami " ++ toString azami ++ " bayt.\"\x7d"
  [.start 413 [("content-type", "application/json"), ("content-length", toString govde.utf8ByteSize)], .body govde]

/-- `GovdeBoyutuMiddleware.__call__`. -/
def govdeBoyutuMiddleware (ortam : Option String) (app : AsgiScope → AsgiApp) (scope : AsgiScope) : AsgiApp :=
  let azami := azamiGovdeBayt ortam
  if scope.tur ≠ "http" then app scope
  else if (icerikUzunlugu scope).any fun uzunluk => (azami : ℤ) < uzunluk then (govdeReddi azami).foldr .send (.done (.ok ()))
  else (app scope).behind (sayanReceive azami) 0

theorem azamiGovdeBayt_pos (ortam : Option String) : 0 < azamiGovdeBayt ortam := by
  have hvarsayilan : 0 < varsayilanAzamiBayt := by decide
  rw [azamiGovdeBayt]
  split_ifs
  · exact hvarsayilan
  · split
    · exact hvarsayilan
    · split_ifs with h
      · exact hvarsayilan
      · omega

end FinancialOs.Routers
