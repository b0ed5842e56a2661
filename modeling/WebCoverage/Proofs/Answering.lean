import WebCoverage.Proofs.Coverage.Closing

/-! The parameters of a request while it is answered. Steps that write leave them alone
(`Exchange.Keeps`), and a step that builds or sends a response has released them when it ends,
whether it fails or not (`Exchange.Releases`). What the service does after such a step keeps them
released, so they are after every answer (`Service.released_after`). -/

namespace WebCoverage

open Xml

namespace Exchange

variable {α β : Type} {step : Answering α} {next : α → Answering β}
  {change : RequestParameters → RequestParameters}

/-- What becomes of the parameters in the step, whether it fails or not. -/
def Leaves (change : RequestParameters → RequestParameters) (step : Answering α) : Prop :=
  ∀ exchange, (after (step exchange)).parameters = change exchange.parameters

/-- The parameters are the same after the step. -/
def Keeps (step : Answering α) : Prop :=
  Leaves id step

/-- The parameters are released after the step. -/
def Releases (step : Answering α) : Prop :=
  Leaves RequestParameters.release step

theorem keeps_pure (value : α) : Keeps (pure value) := by
  intro exchange
  rfl

theorem keeps_throw (failure : Failure) : Keeps (throw failure : Answering α) := by
  intro exchange
  rfl

theorem keeps_get : Keeps get := by
  intro exchange
  rfl

/-- A transport knows nothing of the request. -/
theorem keeps_sending (step : Sending α) : Keeps (sending step) := by
  intro exchange
  unfold sending
  cases step exchange.transport with
  | ok value transport => rfl
  | error failure transport => rfl

/-- What follows does not take the parameters up again. -/
theorem Leaves.bind (h : Leaves change step) (hnext : ∀ value, Keeps (next value)) :
    Leaves change (step >>= next) := by
  intro exchange
  have hstep := h exchange
  change (after (EStateM.bind step next exchange)).parameters = _
  unfold EStateM.bind
  cases hresult : step exchange with
  | error failure stopped =>
    rw [hresult] at hstep
    exact hstep
  | ok value between =>
    rw [hresult] at hstep
    exact (hnext value between).trans hstep

theorem Keeps.releasing (h : Keeps step) : Releases (releasing step) := by
  intro exchange
  have hstep := h exchange
  unfold Exchange.releasing
  cases hresult : step exchange with
  | ok value finished =>
    rw [hresult] at hstep
    exact congrArg RequestParameters.release hstep
  | error failure stopped =>
    rw [hresult] at hstep
    exact congrArg RequestParameters.release hstep

end Exchange

/-- Nothing is requested any more. -/
structure RequestParameters.IsReleased (parameters : RequestParameters) : Prop where
  released : parameters.released = true
  coverages : parameters.coverages = []

theorem RequestParameters.isReleased_release (parameters : RequestParameters) :
    parameters.release.IsReleased :=
  ⟨rfl, rfl⟩

theorem Exchange.Releases.isReleased {α : Type} {step : Answering α} (h : Releases step)
    (exchange : Exchange) : (after (step exchange)).parameters.IsReleased := by
  rw [h exchange]
  exact exchange.parameters.isReleased_release

namespace Service

open Exchange

variable {service : Service} {operation : Answering Unit}

/-- What is left to do for a response when its document is built or has failed. -/
def deliver (service : Service) (built : Except Failure Document) : Answering Unit :=
  match built with
  | .error failure => throw failure
  | .ok document =>
    match service.payload document with
    | .error failure => throw failure
    | .ok payload => do
      sending (Transport.start "text/xml" 200)
      sending (Transport.writePayload payload)

/-- The parameters are released before anything is written. -/
theorem respond_eq_deliver (service : Service) (build : RequestParameters → Except Failure Document)
    (exchange : Exchange) :
    service.respond build exchange =
      service.deliver (build exchange.parameters) exchange.release := by
  have hget : (get : Answering Exchange) exchange = .ok exchange exchange := rfl
  unfold deliver
  cases hbuild : build exchange.parameters with
  | error failure =>
    rw [respond_of_error hbuild]
    rfl
  | ok document =>
    simp only [respond, Exchange.releasing, bind, EStateM.bind, hget, hbuild]
    rfl

/-- What a run comes to is settled by where its operation ends and how reports are written. -/
theorem run_congr {other : Service} {operation' : Answering Unit} {exchange exchange' : Exchange}
    (hreporter : service.reporter = other.reporter)
    (h : operation (service.defaultVersion exchange) =
      operation' (other.defaultVersion exchange')) :
    service.run operation exchange = other.run operation' exchange' := by
  unfold run reporting
  rw [h, hreporter]

/-- An answer that is a document is settled by the document, or by why it could not be built. -/
theorem run_respond_congr {other : Service} {exchange exchange' : Exchange}
    {build build' : RequestParameters → Except Failure Document}
    (hsettings : service.settings = other.settings) (hcodecs : service.codecs = other.codecs)
    (hbuild : build (service.defaultVersion exchange).parameters =
      build' (other.defaultVersion exchange').parameters)
    (hreleased : (service.defaultVersion exchange).release =
      (other.defaultVersion exchange').release) :
    service.run (service.respond build) exchange = other.run (other.respond build') exchange' := by
  have hreporter : service.reporter = other.reporter := by
    unfold reporter
    rw [hsettings, hcodecs]
  apply run_congr hreporter
  rw [respond_eq_deliver, respond_eq_deliver, hbuild, hreleased]
  unfold deliver payload
  rw [hsettings, hcodecs]

theorem keeps_deliver (service : Service) (built : Except Failure Document) :
    Keeps (service.deliver built) := by
  unfold deliver
  split
  · exact keeps_throw _
  · split
    · exact keeps_throw _
    · exact (keeps_sending _).bind fun _ => keeps_sending _

theorem releases_respond (service : Service)
    (build : RequestParameters → Except Failure Document) : Releases (service.respond build) := by
  intro exchange
  rw [respond_eq_deliver]
  exact keeps_deliver service _ exchange.release

theorem releases_respondCoverage (service : Service) (image : Image) :
    Releases (service.respondCoverage image) := by
  apply Keeps.releasing
  exact keeps_get.bind fun exchange => keeps_sending _

/-- A report is written without a look at the parameters. -/
theorem parameters_reporting (service : Service) (operation : Answering Unit)
    (exchange : Exchange) :
    (after (service.reporting operation exchange)).parameters =
      (after (operation exchange)).parameters := by
  unfold reporting
  cases operation exchange with
  | ok _ finished => rfl
  | error failure stopped =>
    cases failure with
    | reported report => exact ((keeps_sending _).bind fun _ => keeps_pure _) stopped
    | _ => rfl

/-- The last release of a run finds nothing left to do. -/
theorem parameters_run (h : Releases operation) (exchange : Exchange) :
    (after (service.run operation exchange)).parameters =
      (service.defaultVersion exchange).parameters.release := by
  have hreporting := parameters_reporting service operation (service.defaultVersion exchange)
  rw [h] at hreporting
  unfold run
  cases hresult : service.reporting operation (service.defaultVersion exchange) with
  | ok succeeded finished =>
    rw [hresult] at hreporting
    -- The operation has released them, and the report did not take them up again.
    have hreleased : finished.parameters.released = true := congrArg (·.released) hreporting
    simp only [hreleased, if_true]
    exact hreporting
  | error failure stopped =>
    rw [hresult] at hreporting
    have hreleased : stopped.parameters.released = true := congrArg (·.released) hreporting
    simp only [hreleased, if_true]
    exact hreporting

theorem isReleased_run (h : Releases operation) (exchange : Exchange) :
    (after (service.run operation exchange)).parameters.IsReleased := by
  rw [parameters_run h]
  exact RequestParameters.isReleased_release _

theorem isReleased_dispatch (service : Service) (origin : Option Origin) (image : Image)
    (exchange : Exchange) :
    (after (service.dispatch origin image exchange)).parameters.IsReleased := by
  have hget : (get : Answering Exchange) exchange = .ok exchange exchange := rfl
  unfold dispatch
  simp only [bind, EStateM.bind, hget]
  generalize Text.lower (exchange.parameters.operation.getD "") = name
  split
  · exact isReleased_run (releases_respond service _) exchange
  · exact isReleased_run (releases_respond service _) exchange
  · exact isReleased_run (releases_respondCoverage service image) exchange
  · have hunsupported : Releases (releasing (sending (service.reporter.send
        (unsupported exchange.parameters.operation))) >>= fun _ => pure false) :=
      (keeps_sending _).releasing.bind fun _ => keeps_pure false
    exact hunsupported.isReleased exchange

/-- However a request is answered, and in whatever state its parameters and the transport were, the
parameters are released afterwards. They are so already when the response is built, sent, or has
failed, before the service reports the failure. -/
theorem released_after (service : Service) (exchange : Exchange) :
    (∀ origin image,
      (after (service.dispatch origin image exchange)).parameters.IsReleased) ∧
    (∀ origin, (after (service.getCapabilities origin exchange)).parameters.IsReleased ∧
      (after (service.respondCapabilities origin exchange)).parameters.IsReleased) ∧
    ((after (service.describeCoverage exchange)).parameters.IsReleased ∧
      (after (service.respondDescription exchange)).parameters.IsReleased) ∧
    ∀ image, (after (service.getCoverage image exchange)).parameters.IsReleased ∧
      (after (service.respondCoverage image exchange)).parameters.IsReleased := by
  refine ⟨fun origin image => ?_, fun origin => ⟨?_, ?_⟩, ⟨?_, ?_⟩, fun image => ⟨?_, ?_⟩⟩
  · exact isReleased_dispatch service origin image exchange
  · exact isReleased_run (releases_respond service _) exchange
  · exact (releases_respond service _).isReleased exchange
  · exact isReleased_run (releases_respond service _) exchange
  · exact (releases_respond service _).isReleased exchange
  · exact isReleased_run (releases_respondCoverage service image) exchange
  · exact (releases_respondCoverage service image).isReleased exchange

end Service

end WebCoverage
