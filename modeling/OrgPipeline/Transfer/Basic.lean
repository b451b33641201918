import OrgPipeline.Transfer.Item
import OrgPipeline.Platform.Command
import OrgPipeline.Platform.Query
import OrgPipeline.Platform.Bulk
import OrgPipeline.World.Basic

/-!
# Transfers

A transfer copies records of one object between two orgs. The rows are queried
from the source org into a file under the names of the target fields, and the
target org takes them from there. The file does not outlive the transfer.
-/

set_option autoImplicit false

namespace OrgPipeline

structure Transfer where
  sourceOrg : String
  targetOrg : String
  object : TransferItem
  fields : List TransferItem
  filter : String
  externalId : String
  allowance : BulkAllowance

namespace Transfer

def query (t : Transfer) : String :=
  Platform.query (t.object.name .source) (TransferItem.names .source t.fields) t.filter

def header (t : Transfer) : String := Text.join "," (TransferItem.names .target t.fields)

/-- A number as lower-case hexadecimal digits, at least 32 of them. -/
def hexName (n : Nat) : String :=
  let digits := Nat.toDigits 16 n
  String.ofList (List.replicate (32 - digits.length) '0' ++ digits)

def fileName (serial : Nat) : String := "tmp_data_" ++ hexName serial ++ ".csv"

def copy (platform : Platform.Command → Action Json) (file : String) (t : Transfer) :
    Action Json := do
  let _ ← platform (.queryCsv t.sourceOrg file t.query (some t.header))
  let result ←
    platform (.bulkUpsert t.targetOrg file t.externalId (t.object.name .target))
  Action.ofExcept (Bulk.check "upsert" result t.allowance)
  return result

/-- Copies the records. The file goes, whatever became of the copy; if it
cannot be removed, that is the error. -/
def run (platform : Platform.Command → Action Json) (directory : String) (t : Transfer) :
    Action Json := do
  let serial ← Action.freshNumber
  let file := Path.join directory (fileName serial)
  let result ← (t.copy platform file).attempt
  Action.remove file "remove transfer data file"
  Action.ofExcept result

end Transfer
end OrgPipeline
