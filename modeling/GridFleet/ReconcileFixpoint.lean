import GridFleet.OrderedLog
import GridFleet.VerificationSteps
namespace GridFleet.ReconcileFixpoint
open Decision DecisionSnapshot IntentReconciler IntentStore Readiness StateProjection List Option

/-- The rows a pass reads; `intents` are those of the device, under the schema's two keys. -/
def withIntents (db:Database)(intents:IntentTable):Database:=
 {db with intents:=intents.rows,intents_unique:=intents.ids_unique}

section
variable {text:DatetimeText}{deviceId:DeviceId}{observed:Option String}
 {stored:List DeviceIntent}{facts:DecisionFacts}{live:Bool}{now:Instant}

end

section
variable {text:DatetimeText}{deviceId:DeviceId}{observed:Option String}
 {facts:DecisionFacts}{live:Bool}{now:Instant}(db:Database)(t:IntentTable)

end

section
variable {text:DatetimeText}{db:Database}{t:IntentTable}{preloaded packs:Option Catalog}
 {device:Device}{node:Option AppiumNode}{now:Instant}{snapshot:DeviceDecisionSnapshot}

end

end GridFleet.ReconcileFixpoint
