import AccountSidecar.Http.Serve
import AccountSidecar.Proofs.Sessions

/-!
# Serving requests

A request that leads to an endpoint is answered by its handler alone: the answer is that of the
handler with the headers for other origins, and the world is the one that the handler left. Which
endpoint a request leads to is settled by its path and method.
-/

namespace AccountSidecar.Http

open AccountSidecar.Action

variable {site : Site} {d : Deployment} {r : Request} {e : Endpoint} {w : World}

/-- What a client gets to see of a response: a request for the head alone gets no content, and pages
of other origins get their headers. -/
def Site.delivered (site : Site) (r : Request) (response : Response) : Response :=
  { response with
    body := if r.method = "HEAD" then .none else response.body
    headers := response.headers ++ site.originHeaders r }

/-- A request to an endpoint is answered by its handler. -/
theorem serve_of_endpoint (route : r.destination = .endpoint e) (w : World) :
    serve site d r w = (site.delivered r (settle (handle site d r e) w).1,
      (settle (handle site d r e) w).2) := by
  unfold serve dispatch
  rw [route]
  rfl

/-- Turning an outcome into a response changes nothing. -/
theorem settle_world (a : Action Response) (w : World) : (settle a w).2 = (a.runIn w).2 := by
  unfold settle
  rcases a.runIn w with ⟨_ | _, _⟩ <;> rfl

/-- The response of a handler that comes to its end is that of the handler. -/
theorem settle_of_ok {a : Action Response} {response : Response}
    (ended : (a.runIn w).1 = .ok response) : (settle a w).1 = response := by
  unfold settle
  rcases run : a.runIn w with ⟨_ | _, _⟩ <;> rw [run] at ended <;> cases ended
  rfl

/-- What comes of an action whose first part works comes of the second part. -/
theorem settle_bind_ok {α : Type} {a : Action α} {f : α → Action Response} {x : α} {w' : World}
    (first : a.runIn w = (.ok x, w')) : settle (a >>= f) w = settle (f x) w' := by
  unfold settle
  rw [runIn_bind_ok first]

/-- What comes of an action whose first part fails is the response to that. -/
theorem settle_bind_error {α : Type} {a : Action α} {f : α → Action Response} {failure : Failure}
    {w' : World} (first : a.runIn w = (.error failure, w')) :
    settle (a >>= f) w = (responseToFailure failure, w') := by
  unfold settle
  rw [runIn_bind, first]

/-- An endpoint that reads the body stops where it nests too deep. -/
theorem stopsAtBody_eq (reads : e.readsBody = true) (site : Site) (r : Request) :
    site.stopsAtBody r e = r.nestsBeyond site.nesting := by
  rw [Site.stopsAtBody, reads, Bool.true_and]

/-- A handler works where the body can be read. -/
theorem afterBody_of_read {handler : Action Response} (read : site.stopsAtBody r e = false) :
    afterBody site r e handler = handler := by
  unfold afterBody
  rw [if_neg (Bool.eq_false_iff.mp read)]

/-- A handler does nothing where the body nests too deep. -/
theorem afterBody_of_stopped {handler : Action Response} (stopped : site.stopsAtBody r e = true) :
    afterBody site r e handler = pure { status := 500 } := by
  unfold afterBody
  rw [if_pos stopped]

/-- Endpoints that are open to all are handled once the body is read. -/
theorem handle_of_open (unguarded : e.needsSession = false) :
    handle site d r e = afterBody site r e (handleOpen site d r e) := by
  unfold handle
  rw [if_neg (Bool.eq_false_iff.mp unguarded)]

/-- Endpoints that need a session are handled for its user once the body is read. -/
theorem handle_of_guarded (guarded : e.needsSession = true) :
    handle site d r e = Session.username (r.cookie? site.cookieName) >>= fun username =>
      afterBody site r e (handleFor d r username e) := by
  unfold handle
  rw [if_pos guarded]

/-- A request that leads to an endpoint has its path and one of its methods. -/
theorem Request.endpoint_of_destination (route : r.destination = .endpoint e) :
    endpointOf? (pathNames r.plainPath) = some e ∧ r.method ≠ "OPTIONS" ∧
      r.method ∈ e.methods := by
  unfold Request.destination at route
  dsimp only at route
  split at route
  · rename_i found there
    split at route
    · cases route
    · rename_i other
      split at route
      · rename_i known
        obtain rfl := Destination.endpoint.inj route
        exact ⟨there, other, List.contains_iff_mem.mp known⟩
      · cases route
  · split at route
    · split at route <;> cases route
    · cases route

/-- A request with the path of an endpoint and one of its methods leads to it. -/
theorem Request.destination_of_endpoint (there : endpointOf? (pathNames r.plainPath) = some e)
    (other : r.method ≠ "OPTIONS") (known : r.method ∈ e.methods) :
    r.destination = .endpoint e := by
  unfold Request.destination
  dsimp only
  rw [there]
  dsimp only
  rw [if_neg other, if_pos (List.contains_iff_mem.mpr known)]

/-- A request that posts to the path of an endpoint which does more than read leads to it. -/
theorem Request.destination_of_posted (there : endpointOf? (pathNames r.plainPath) = some e)
    (posted : r.method = "POST") (writes : e.isRead = false) : r.destination = .endpoint e := by
  refine r.destination_of_endpoint there (by rw [posted]; decide) ?_
  rw [posted, Endpoint.methods, writes]
  decide

/-- A request to an endpoint that is open to all gets the response of its handler, where the body is
read and the handler comes to its end. -/
theorem serve_of_open {response : Response} (route : r.destination = .endpoint e)
    (unguarded : e.needsSession = false) (read : site.stopsAtBody r e = false)
    (ended : ((handleOpen site d r e).runIn w).1 = .ok response) :
    (serve site d r w).1 = site.delivered r response := by
  rw [serve_of_endpoint route, handle_of_open unguarded, afterBody_of_read read,
    settle_of_ok ended]

/-- A request to an endpoint that is open to all gets no content and changes nothing where its body
nests too deep. -/
theorem serve_of_stopped (route : r.destination = .endpoint e) (unguarded : e.needsSession = false)
    (stopped : site.stopsAtBody r e = true) :
    serve site d r w = (site.delivered r { status := 500 }, w) := by
  rw [serve_of_endpoint route, handle_of_open unguarded, afterBody_of_stopped stopped]
  rfl

end AccountSidecar.Http
