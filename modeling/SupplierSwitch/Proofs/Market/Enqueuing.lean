import SupplierSwitch.Market.Handlers
import SupplierSwitch.Proofs.Memory.Attending

namespace SupplierSwitch

/-!
# Handlers that only enqueue

The handlers of the market reach the store through their unit, enqueue the commands that are to
follow, and leave it to the processor to mark what was handled. That is what an undisturbed drain
needs to go by the order of commits and to leave nothing out.

* `Market.onlyEnqueues_handle` — every handler, whatever its command means;
* `Market.onlyEnqueue_router` — all of them by kind.
-/

namespace Market

open Work

variable {market : Market} {process : ProcessKind} {request : SupplyRequest} {now : Timestamp}

theorem onlyEnqueues_answer (reasons : Option (List Reason)) :
    (market.answer process request now reasons).OnlyEnqueues := by
  refine onlyEnqueues_freshId.bind fun _ => onlyEnqueues_freshId.bind fun _ => ?_
  refine .bind (onlyEnqueues_onRepository (Handling.onlyEnqueues_perform _ trivial))
    fun transaction => ?_
  refine .bind (onlyEnqueues_ofDomain _) fun answered => ?_
  exact onlyEnqueues_onRepository (Handling.onlyEnqueues_perform _ trivial)

theorem onlyEnqueues_reject (violations : List MarketViolation) :
    (market.reject process request now violations).OnlyEnqueues := by
  refine .bind (onlyEnqueues_ofConversion _) fun reasons => ?_
  refine (onlyEnqueues_answer _).bind fun _ => ?_
  exact (onlyEnqueues_report _).bind fun _ => onlyEnqueues_pure _

theorem onlyEnqueues_confirm (point : AccountingPoint) :
    (market.confirm process request now point).OnlyEnqueues := by
  refine .bind (onlyEnqueues_ofDomain _) fun supplier => ?_
  refine .bind (onlyEnqueues_ofDomain _) fun registered => ?_
  refine .bind (onlyEnqueues_onRepository (Handling.onlyEnqueues_perform _ trivial)) fun _ => ?_
  refine (onlyEnqueues_answer _).bind fun _ => ?_
  refine (onlyEnqueues_enqueue _ _).bind fun _ => ?_
  exact (onlyEnqueues_report _).bind fun _ => onlyEnqueues_pure _

theorem onlyEnqueues_handleRequest :
    (market.handleRequest process request now).OnlyEnqueues := by
  refine .bind (onlyEnqueues_onRepository (Handling.onlyEnqueues_perform _ trivial))
    fun point => ?_
  refine (onlyEnqueues_reports _).bind fun _ => ?_
  split
  · exact onlyEnqueues_confirm _
  · exact onlyEnqueues_throw _
  · exact onlyEnqueues_reject _

theorem onlyEnqueues_handleEffectuation (effectuation : Effectuation) :
    (handleEffectuation process effectuation).OnlyEnqueues := by
  refine .bind (onlyEnqueues_onRepository (Handling.onlyEnqueues_perform _ trivial))
    fun point => ?_
  refine (onlyEnqueues_reports _).bind fun _ => ?_
  split
  · refine .bind (onlyEnqueues_ofDomain _) fun effectuated => ?_
    refine (onlyEnqueues_report _).bind fun _ => ?_
    exact .bind (onlyEnqueues_onRepository (Handling.onlyEnqueues_perform _ trivial))
      fun _ => onlyEnqueues_pure _
  · exact onlyEnqueues_throw _
  · exact (onlyEnqueues_report _).bind fun _ => onlyEnqueues_pure _

theorem onlyEnqueues_handleResult (result : AggregationResult) :
    (handleResult result now).OnlyEnqueues := by
  refine onlyEnqueues_freshId.bind fun _ => ?_
  refine .bind (onlyEnqueues_ofDomain _) fun transaction => ?_
  have added : (Work.addTransaction transaction).OnlyEnqueues :=
    onlyEnqueues_onRepository (Handling.onlyEnqueues_perform _ trivial)
  refine .bind (onlyEnqueues_lift (onlyEnqueues_iff.mp added)) fun answer => ?_
  split
  · exact (onlyEnqueues_report _).bind fun _ => onlyEnqueues_pure _
  · exact (onlyEnqueues_report _).bind fun _ => onlyEnqueues_pure _
  · exact onlyEnqueues_throw _

theorem onlyEnqueues_handle (market : Market) (command : MarketCommand) (now : Timestamp) :
    (market.handle command now).OnlyEnqueues := by
  cases command with
  | request process request => exact onlyEnqueues_handleRequest
  | effectuate process effectuation => exact onlyEnqueues_handleEffectuation effectuation
  | forwardResult result => exact onlyEnqueues_handleResult result

/-- The market's router has handlers that only enqueue. -/
theorem onlyEnqueue_router (market : Market) : Memory.OnlyEnqueue market.router := by
  intro route mem
  obtain ⟨kind, -, routed⟩ := List.mem_filterMap.mp mem
  obtain ⟨read, -, rfl⟩ := Option.map_eq_some_iff.mp routed
  exact Route.onlyEnqueues_ofHandler fun context command =>
    Work.onlyEnqueues_iff.mp (onlyEnqueues_handle market command context.now)

end Market

end SupplierSwitch
