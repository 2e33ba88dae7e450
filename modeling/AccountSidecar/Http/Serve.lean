import AccountSidecar.Http.Handler

/-!
# Serving requests

From a request to its response: routing, the handler, error responses and the headers for pages of
other origins.
-/

namespace AccountSidecar.Http

/-- The response to a failure. One that is neither an account error nor reported by a store has no
content. -/
def responseToFailure : Failure → Response
  | .account e => .error e.status e.message
  | .users e => if e.isReported then storageFailure else { status := 500 }
  | .metadata e => if e.isReported then storageFailure else { status := 500 }
  | _ => { status := 500 }
where
  /-- The response to a failure of a store. -/
  storageFailure : Response := .error 500 "failed to save account data"

/-- The outcome of a handler as a response, and the world after it. -/
def settle (a : Action Response) (w : World) : Response × World :=
  match a.runIn w with
  | (.ok response, w) => (response, w)
  | (.error e, w) => (responseToFailure e, w)

/-- Carries out a request. -/
def dispatch (site : Site) (d : Deployment) (r : Request) (w : World) : Response × World :=
  match r.destination with
  | .unknown => ({ status := 404 }, w)
  | .redirect => ({ status := 308 }, w)
  | .wrongMethod e => ({ status := 405, allow := e.methods }, w)
  | .methodsOf e => ({ status := 200, allow := e.methods }, w)
  | .endpoint e => settle (handle site d r e) w

/-- Whether pages of an origin may read responses. -/
def Site.allowsOrigin (site : Site) (origin : String) : Bool :=
  origin != "" && (site.origins.contains "*" || site.origins.contains origin)

/-- The headers that let a page of another origin read the response. -/
def Site.originHeaders (site : Site) (r : Request) : Keyed String :=
  match r.header? "Origin" with
  | some origin =>
    if site.allowsOrigin origin then
      [("Access-Control-Allow-Origin", origin), ("Access-Control-Allow-Credentials", "true"),
        ("Access-Control-Allow-Methods", "GET, POST, PUT, DELETE, OPTIONS"),
        ("Access-Control-Allow-Headers", "Origin, Content-Type, Accept"), ("Vary", "Origin")]
    else []
  | none => []

/-- Answers a request. A request for the head alone gets no content. -/
def serve (site : Site) (d : Deployment) (r : Request) (w : World) : Response × World :=
  let (response, w) := dispatch site d r w
  let body := if r.method = "HEAD" then .none else response.body
  ({ response with body, headers := response.headers ++ site.originHeaders r }, w)

end AccountSidecar.Http
