import SequenceClassification.Facade
import SequenceClassification.Family
import SequenceClassification.Service.Body
import SequenceClassification.Service.Entry

/-!
The classifier as a service: requests are answered one by one. A request is first understood, which needs
no model, and then performed: a query that is understood is answered by the entries of the labels of the
model or by its failure.
-/
namespace SequenceClassification

/-- A request. The target is a path, a query part and a fragment; the last two have no effect. -/
structure Service.Request where
  method : String
  target : String
  contentType : Option String
  body : String
deriving Repr, DecidableEq, Inhabited

inductive Service.Content where
  | empty
  | plain (text : String)
  | detail (message : String)
  | complaints (cs : List Complaint)
  | health (device : String) (family : Family) (classes : Nat)
  | labels (entries : List Entry)
  | labelLists (entries : List (List Entry))
deriving Inhabited

structure Service.Response where
  status : Nat
  content : Content
deriving Inhabited

structure Service where
  device : String
  family : Family
  model : Facade CodePoints

namespace Service

/-- How deep JSON may be nested where a request is answered: in a body that is read, and in what an answer
repeats of it. Both depend on the calls in progress. -/
structure Levels where
  reading : Nat
  writing : Nat
deriving Repr, DecidableEq, Inhabited

inductive Route where
  | health
  | labels (mode : Mode)
deriving Repr, DecidableEq, Inhabited

inductive Call where
  | health
  | query (q : Query)
deriving Inhabited

namespace Route

def all : List Route := [.health, .labels .single, .labels .multi]

def path : Route → String
  | .health => "/health"
  | .labels .single => "/predict"
  | .labels .multi => "/predict_multilabel"

def method : Route → String
  | .health => "GET"
  | .labels _ => "POST"

/-- The route at a path, on whose trailing slashes nothing depends. -/
def ofPath? (path : String) : Option Route :=
  let bare := String.ofList (path.toList.reverse.dropWhile (· == '/')).reverse
  all.find? fun r => r.path == bare

/-- A route is found at its own path. -/
theorem ofPath?_path (r : Route) : ofPath? r.path = some r := by
  rcases r with _ | _ | _ <;> decide +kernel

end Route

namespace Request

def verb (r : Request) : String := r.method.toUpper

def path (r : Request) : String :=
  String.ofList (r.target.toList.takeWhile fun c => c != '?' && c != '#')

end Request

def notFound : Response := ⟨404, .detail "Not Found"⟩

def wrongMethod : Response := ⟨405, .detail "Method Not Allowed"⟩

def unreadable : Response := ⟨400, .detail "There was an error parsing the body"⟩

def broken : Response := ⟨500, .plain "Internal Server Error"⟩

/-- The answer to a body with complaints; it repeats what they are about. -/
def refused (levels : Levels) (cs : List Complaint) : Response :=
  if cs.all (Complaint.isWritable levels.writing) then ⟨422, .complaints cs⟩ else broken

def understandQuery (levels : Levels) (mode : Mode) (r : Request) : Except Response Query :=
  match readBody levels.reading r.contentType r.body with
  | .error (.malformed c) => .error (refused levels [c])
  | .error .excessive => .error unreadable
  | .ok value => (Query.ofBody mode value).mapError (refused levels)

def understand (levels : Levels) (r : Request) : Except Response Call :=
  match Route.ofPath? r.path with
  | none => .error notFound
  | some route =>
    if r.verb != route.method then .error wrongMethod
    else match route with
      | .health => .ok .health
      | .labels mode => (understandQuery levels mode r).map Call.query

def ofFailure (e : Failure) : Response := if e.isOwn then ⟨500, .detail e.message⟩ else broken

/-- The answer to a query. Where a label has no entry, the service fails. -/
def performQuery (s : Service) : Query → Response
  | .single texts =>
    match s.model.predict texts with
    | .error e => ofFailure e
    | .ok ls =>
      match ls.mapM Entry.ofLabel? with
      | some entries => ⟨200, .labels entries⟩
      | none => broken
  | .multi texts threshold =>
    match s.model.predictMulti texts (.float threshold) with
    | .error e => ofFailure e
    | .ok lists =>
      match lists.mapM (List.mapM Entry.ofLabel?) with
      | some entries => ⟨200, .labelLists entries⟩
      | none => broken

def perform (s : Service) : Call → Response
  | .health => ⟨200, .health s.device s.family s.model.labels.length⟩
  | .query q => s.performQuery q

/-- The answer to a request. An answer to `HEAD` has no content. -/
def answer (s : Service) (levels : Levels) (r : Request) : Response :=
  let response := match understand levels r with
    | .error refusal => refusal
    | .ok call => s.perform call
  if r.verb == "HEAD" then { response with content := .empty } else response

/-- A single-label query is answered with the entries of the labels that the model predicts. -/
theorem performQuery_single {s : Service} {texts : List CodePoints} {ls : List (Label Float)}
    {entries : List Entry} (h : s.model.predict texts = .ok ls)
    (hentries : ls.mapM Entry.ofLabel? = some entries) :
    s.performQuery (.single texts) = ⟨200, .labels entries⟩ := by
  simp only [performQuery, h, hentries]

/-- A multi-label query is answered with the entries of the labels that the model predicts. -/
theorem performQuery_multi {s : Service} {texts : List CodePoints} {threshold : Float}
    {lists : List (List (Label Float))} {entries : List (List Entry)}
    (h : s.model.predictMulti texts (.float threshold) = .ok lists)
    (hentries : lists.mapM (List.mapM Entry.ofLabel?) = some entries) :
    s.performQuery (.multi texts threshold) = ⟨200, .labelLists entries⟩ := by
  simp only [performQuery, h, hentries]

end Service

end SequenceClassification
