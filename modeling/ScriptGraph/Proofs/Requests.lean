import ScriptGraph.Proofs.Script.Traversal
import ScriptGraph.Proofs.Source.Traversal

/-! # Bodies of requests

The generator writes the call that sends a request, and the interpreter sends it. Both leave the body
out where the method is that of a mere question. The generator knows this method only in capitals,
the interpreter in letters of either case.
-/

namespace ScriptGraph

open Json (Value quote)

/-- The method that a node asks for, in the letters that it is given in. -/
def Props.method (p : Props) : String :=
  (p.nonEmpty? "method").getD "GET"

theorem sendsBody_iff {method body : String} :
    Http.sendsBody method body = true ↔ method ≠ "GET" ∧ body ≠ "" := by
  simp [Http.sendsBody]

/-! ### Calls -/

namespace Source

/-- The fields of the call, each on a line. -/
def callFields (p : Props) : List String :=
  let headers := (Value.object (p.members "headers")).compact
  let body := p.text "body"
  [s!"method: {quote p.method},", s!"headers: {headers},"] ++
    if Http.sendsBody p.method body then [s!"body: {quote body},"] else []

/-- The line gives the call a body. -/
def IsBodyLine (line : String) : Prop :=
  "body: ".toList <+: line.toList

/-- What is written of a call with certain fields. -/
def callEvents (url : String) (fields : List String) : List Event :=
  [.write (.plain s!"const response = await fetch({quote url}, \x7b"), .indent] ++
    fields.map (fun field => .write (.plain field)) ++ [.dedent, .write (.plain "\x7d)")]

/-- What the generator makes of a request: one call with certain fields, among statements that keep
what comes back. -/
structure WritesCall (options : Options) (graph : Graph) (v : Node) (fields : List String) :
    Prop where
  emitter : (builtin options).emitters.get? v.kind = some Emit.httpRequest
  call (visit : Node → EmitM Unit) (d : Draft) :
    let s := (builtin options).setting graph
    ∃ before after d', (Emit.httpRequest s visit v).run d = (.proceed, d') ∧
      d'.log.toList =
        d.log.toList ++ before ++ callEvents ((s.props v).text "url") fields ++ after

theorem isBodyLine_body (text : String) : IsBodyLine s!"body: {text}," := by
  refine ⟨(text ++ ",").toList, ?_⟩
  rw [← String.toList_append, ← String.append_assoc]
  rfl

theorem not_isBodyLine {label : String} {c : Char} {cs : List Char} (h : label.toList = c :: cs)
    (hc : c ≠ 'b') (text : String) : ¬ IsBodyLine s!"{label}{text}," := by
  rintro ⟨more, he⟩
  rw [String.toList_append, String.toList_append, show (toString label).toList = c :: cs from h] at he
  exact hc (List.cons.inj he).1.symm

theorem exists_isBodyLine_iff (p : Props) :
    (∃ line ∈ callFields p, IsBodyLine line) ↔ Http.sendsBody p.method (p.text "body") = true := by
  have method (text : String) : ¬ IsBodyLine s!"method: {text}," := not_isBodyLine rfl (by decide) _
  have headers (text : String) : ¬ IsBodyLine s!"headers: {text}," :=
    not_isBodyLine rfl (by decide) _
  unfold callFields
  dsimp only
  split <;> simp_all [isBodyLine_body]

theorem Writes.guarded {body handler : EmitM Unit} {es es' : List Event} (hb : Writes body es)
    (hh : Writes handler es') :
    Writes (Emit.guarded body handler)
      ([.write (.plain "try \x7b"), .indent] ++ es ++
        [.dedent, .write (.plain "\x7d catch (error) \x7b"), .indent] ++ es' ++
        [.dedent, .write (.plain "\x7d")]) := by
  have all := (line "try \x7b").andThen (hb.block.andThen
    ((line "\x7d catch (error) \x7b").andThen (hh.block.andThen (line "\x7d"))))
  unfold Emit.guarded
  simpa using all

theorem writes_fields (p : Props) :
    let headers := (Value.object (p.members "headers")).compact
    let body := p.text "body"
    Writes (do
      line s!"method: {quote p.method},"
      line s!"headers: {headers},"
      if Http.sendsBody p.method body then line s!"body: {quote body},")
      ((callFields p).map fun field => .write (.plain field)) := by
  intro headers body
  unfold callFields
  refine .andThen (.line _) (.andThen (.line _) ?_)
  split
  · exact .line _
  · exact .skip

/-- Between the names that it takes and those that it records, a request writes one call. -/
theorem log_httpRequest (s : Setting) (visit : Node → EmitM Unit) (v : Node) (d : Draft) :
    ∃ before after, ((Emit.httpRequest s visit v).run d).2.log.toList =
      d.log.toList ++ before ++
        callEvents ((s.props v).text "url") (callFields (s.props v)) ++ after := by
  have fields := writes_fields (s.props v)
  unfold Props.method at fields
  unfold Emit.httpRequest
  simp only [run_bind_eq]
  rw [run_pure_eq]
  simp only [log_record]
  rw [write_run, Writes.guarded (.andThen (.line _) (.andThen fields.block (.andThen (.line _)
    (.andThen (.statement _) (.andThen (.statement _) (.statement _)))))) (.line _)]
  simp only [Draft.log_logged, log_freshName]
  unfold callEvents
  simp only [List.append_assoc, List.cons_append, List.nil_append]
  exact ⟨[_, _, _, _, _, _], _, rfl⟩

theorem writesCall (options : Options) (graph : Graph) {v : Node}
    (hk : v.kind = Kind.httpRequest.name) :
    WritesCall options graph v (callFields (Registry.builtin.props v)) where
  emitter := by rw [Generator.emitters_builtin, hk, Kind.ofName?_name]; rfl
  call visit d := by
    intro s
    obtain ⟨before, after, log⟩ := log_httpRequest s visit v d
    exact ⟨before, after, _, rfl, log⟩

end Source

/-! ### Requests -/

namespace Script

def Event.request? : Event → Option Http.Request
  | .request r _ => some r
  | _ => none

/-- The requests that have been made, in their order. -/
def Machine.requests (m : Machine) : List Http.Request :=
  m.log.toList.filterMap Event.request?

section

variable (m : Machine)

theorem Machine.requests_logged (es : List Event) :
    (m.logged es).requests = m.requests ++ es.filterMap Event.request? := by
  simp [requests]

@[simp] theorem Machine.requests_traced (text : String) :
    (m.logged [.trace text]).requests = m.requests := by
  simp [requests_logged, Event.request?]

@[simp] theorem Machine.requests_recorded (output : PortRef) (value : Value) :
    (m.recorded output value).requests = m.requests := by
  change (m.logged _).requests = _
  simp [requests_logged, Event.request?]

theorem requests_sendRequest (s : Setting) (request : Http.Request) :
    ((Execute.sendRequest s request).run.run m).2.requests = m.requests ++ [request] := by
  have sent (response : Option Http.Response) :
      (Machine.logged { m with sent := m.sent + 1 } [.request request response]).requests =
        m.requests ++ [request] :=
    Machine.requests_logged ..
  unfold Execute.sendRequest
  rw [run_lift_bind (send_run s request m)]
  cases s.exchange m.sent request with
  | none => exact sent none
  | some response =>
    dsimp only
    cases response.text request.method <;> exact sent (some response)

/-- A request is sent once, if it can be built at all. -/
theorem requests_httpRequest (s : Setting) (visit : Node → RunM Unit) (v : Node)
    (token : Http.isToken (Text.toUpper (s.props v).method)) :
    ((Execute.httpRequest s visit v).run.run m).2.requests =
      m.requests ++
        (Execute.requestOf (s.props v) (Text.toUpper (s.props v).method)).toOption.toList := by
  unfold Props.method at token ⊢
  unfold Execute.httpRequest
  simp only [token, Bool.not_true, Bool.false_eq_true, if_false]
  unfold trace
  rw [run_lift_bind (log_run _ m)]
  generalize Text.toUpper (((s.props v).nonEmpty? "method").getD "GET") = method
  generalize hm : m.logged [_] = m₁
  have begun : m₁.requests = m.requests := by
    rw [← hm, Machine.requests_traced]
  cases Execute.requestOf (s.props v) method with
  | error fault => exact begun.trans (List.append_nil _).symm
  | ok request =>
    have sent := requests_sendRequest m₁ s request
    rw [liftM_ok_bind]
    rcases hs : (Execute.sendRequest s request).run.run m₁ with ⟨result, m₂⟩
    rw [hs, begun] at sent
    cases result with
    | error fault =>
      rw [run_bind_of_error hs]
      exact sent
    | ok answer =>
      rw [run_bind_of_ok hs, run_lift_bind (log_run _ _), run_lift_bind (log_run _ _),
        run_lift_bind (log_run _ _), run_lift_bind (record_run ..), run_lift_bind (record_run ..),
        run_lift_bind (record_run ..)]
      change Machine.requests (.recorded (.recorded (.recorded (.logged (.logged (.logged _ _) _) _)
        _ _) _ _) _ _) = _
      simpa [Except.toOption] using sent

end

/-- The body that goes with the request of a node. -/
def body? (p : Props) : Option String :=
  if Http.sendsBody (Text.toUpper p.method) (p.text "body") then some (p.text "body") else none

theorem isSome_body?_iff (p : Props) :
    (body? p).isSome ↔ Http.sendsBody (Text.toUpper p.method) (p.text "body") = true := by
  unfold body?
  split <;> simp_all

theorem body_build {method address : String} {headers : List (String × String)}
    {body : Option String} {request : Http.Request}
    (h : Http.Request.build method address headers body = .ok request) : request.body = body := by
  unfold Http.Request.build at h
  split at h
  · cases h
  · dsimp only at h
    split_ifs at h
    obtain rfl := Except.ok.inj h
    rfl

theorem body_requestOf {p : Props} {request : Http.Request}
    (h : Execute.requestOf p (Text.toUpper p.method) = .ok request) : request.body = body? p := by
  unfold Execute.requestOf at h
  dsimp only at h
  split at h
  next r built =>
    obtain rfl := Except.ok.inj h
    exact body_build built
  next => cases h

/-- What the interpreter makes of a request: one request at most, with a certain body or without
one. -/
structure Sends (limit : Nat) (exchange : Http.Exchange) (draws : Draws) (graph : Graph) (v : Node)
    (body? : Option String) : Prop where
  executor : (builtin limit exchange draws).executorOf v.kind = Execute.httpRequest
  once (visit : Node → RunM Unit) (m : Machine) :
    let s := (builtin limit exchange draws).setting graph
    ((Execute.httpRequest s visit v).run.run m).2.requests =
      m.requests ++
        (Execute.requestOf (s.props v) (Text.toUpper (s.props v).method)).toOption.toList
  body {request : Http.Request} :
    let p := Registry.builtin.props v
    Execute.requestOf p (Text.toUpper p.method) = .ok request → request.body = body?

theorem sends (limit : Nat) (exchange : Http.Exchange) (draws : Draws) (graph : Graph) {v : Node}
    (hk : v.kind = Kind.httpRequest.name)
    (token : Http.isToken (Text.toUpper (Registry.builtin.props v).method)) :
    Sends limit exchange draws graph v (body? (Registry.builtin.props v)) where
  executor := by rw [Interpreter.executorOf_builtin, hk, Kind.ofName?_name]; rfl
  once visit m := requests_httpRequest m _ visit v token
  body := body_requestOf

end Script

theorem isBodyLine_iff_body? (p : Props) :
    ((∃ line ∈ Source.callFields p, Source.IsBodyLine line) ↔ (Script.body? p).isSome) ↔
      (Text.toUpper p.method = "GET" → p.method = "GET" ∨ p.text "body" = "") := by
  rw [Source.exists_isBodyLine_iff, Script.isSome_body?_iff, sendsBody_iff, sendsBody_iff]
  have capitals : p.method = "GET" → Text.toUpper p.method = "GET" := by
    intro h
    rw [h]
    decide +kernel
  have agree {A B C : Prop} (h : A → B) : ((¬ A ∧ ¬ C) ↔ (¬ B ∧ ¬ C)) ↔ (B → A ∨ C) := by
    tauto
  exact agree capitals

/-- The call that the generator writes for a request has a body if and only if the request that the
interpreter sends has one, unless there is a body and the method is that of a question and not
written in capitals. -/
theorem bodies_agree_iff (options : Source.Options) (limit : Nat) (exchange : Http.Exchange)
    (draws : Script.Draws) (graph : Graph) {v : Node} (hk : v.kind = Kind.httpRequest.name)
    (token : Http.isToken (Text.toUpper (Registry.builtin.props v).method)) :
    let p := Registry.builtin.props v
    let fields := Source.callFields p
    let body? := Script.body? p
    Source.WritesCall options graph v fields ∧ Script.Sends limit exchange draws graph v body? ∧
      (((∃ line ∈ fields, Source.IsBodyLine line) ↔ body?.isSome) ↔
        (Text.toUpper p.method = "GET" → p.method = "GET" ∨ p.text "body" = "")) :=
  ⟨Source.writesCall options graph hk, Script.sends limit exchange draws graph hk token,
    isBodyLine_iff_body? _⟩

/-- A request with a body whose method is written in small letters. -/
def getInSmallLetters : Node where
  id := .ofNat 2
  kind := Kind.httpRequest.name
  properties :=
    [("body", .string "x"), ("method", .string "get"), ("url", .string "http://[::1]/")]

def asksOnce : Graph :=
  .ofLists [{ id := .ofNat 1, kind := Kind.onStart.name }, getInSmallLetters]
    [.between (.ofNat 1) 0 (.ofNat 2) 0]

theorem getInSmallLetters_bodies_agree_iff :
    let p := Registry.builtin.props getInSmallLetters
    getInSmallLetters.kind = Kind.httpRequest.name ∧ Http.isToken (Text.toUpper p.method) ∧
      Source.WritesCall {} asksOnce getInSmallLetters (Source.callFields p) ∧
      Script.Sends 0 .unreachable (.ofSeed 0) asksOnce getInSmallLetters none ∧
      ∃ line ∈ Source.callFields p, Source.IsBodyLine line := by
  intro p
  have token : Http.isToken (Text.toUpper p.method) := by decide +kernel
  obtain ⟨writes, sends, -⟩ :=
    bodies_agree_iff {} 0 .unreachable (.ofSeed 0) asksOnce (v := getInSmallLetters) rfl token
  have absent : Script.body? p = none := by decide +kernel
  refine ⟨rfl, token, writes, absent ▸ sends, ?_⟩
  rw [Source.exists_isBodyLine_iff]
  decide +kernel

/-- The call that is written has a body, and the one request of the run has none. -/
theorem getInSmallLetters_bodies_differ :
    ((Source.builtin {}).draft asksOnce).log.toList.any (fun e =>
      e.step?.any fun
        | .line text => "body: ".toList.isPrefixOf text.toList
        | _ => false) ∧
    ((Script.builtin 0 .unreachable (.ofSeed 0)).machine asksOnce).requests.map
      (fun r => (r.method, r.body)) = [("GET", none)] := by
  decide +kernel

end ScriptGraph
