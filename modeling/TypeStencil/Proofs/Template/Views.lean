import TypeStencil.Descriptor.View
import TypeStencil.Proofs.Template.Output
import TypeStencil.Proofs.Template.Programs

/-!
Views of members in general. The packaged templates print every view of a member, whatever the
values of its fields are: each name that a template reads is there under every choice of the flags,
and no filter that is applied to a member fails. A description comes as a comment block before the
declaration, which does not depend on it.
-/
namespace TypeStencil

open Template Template.Packaged

/-- The lines of a comment block. -/
def comment (lines : List String) : List String :=
  "/**" :: lines.map (" * " ++ ·) ++ [" */"]

/-- The comment block of a member, if it has one. -/
def commentIf (described : Bool) (lines : List String) : String :=
  if described then ended (comment lines) else ""

section

variable {f : Frame} {scope : Scope}

theorem ended_map {α : Type} (line : α → String) (xs : List α) :
    ended (xs.map line) = String.join (xs.map fun x => line x ++ ended [""]) := by
  rw [ended, List.map_map]
  rfl

theorem writes_comment {b : Bool} {lines : List String}
    (h : scope.lookup "has_description" = .value (.bool b))
    (hlines : scope.lookup "description" = .value (.strings lines)) :
    commentTree.Writes f scope (if b then ended (comment lines) else "") := by
  refine writes_onlyIf h fun _ => ?_
  refine .of_eq (.cons (writes_lit _) <| .cons (writes_each .str hlines fun state line _ =>
    .cons (writes_lit _) <| .cons (writes_name Scope.lookup_cons_self) <| .cons (writes_lit _)
      writes_nil) <| .cons (writes_lit _) writes_nil) ?_
  simp only [comment, List.cons_append, ended_cons, ended_append, ended_nil, ended_map,
    String.append_assoc, String.append_empty, String.empty_append]
  rfl

theorem writes_optional {flag before n : String} {b : Bool} {v : Value}
    (h : scope.lookup flag = .value (.bool b)) (hn : scope.lookup n = .value v) :
    (argument flag before n).Writes f scope (if b then before ++ v.text ++ ", " else "") := by
  refine writes_onlyIf h fun _ => ?_
  refine .of_eq (.cons (writes_lit _) <| .cons (writes_name hn) <|
    .cons (writes_lit _) writes_nil) ?_
  rw [String.append_empty, String.append_assoc]

theorem writes_result {b : Bool} {v : Value}
    (h : scope.lookup "has_response" = .value (.bool b))
    (hclass : scope.lookup "response_class" = .value v) :
    responseTree.Writes f scope (if b then v.text else "void") := by
  cases b with
  | true =>
      refine Node.writes_print (d := .value v) ?_ rfl
      rw [evalIn_choice (evalIn_name h)]
      exact evalIn_name hclass
  | false =>
      refine Node.writes_print (d := .value (.str "void")) ?_ rfl
      rw [evalIn_choice (evalIn_name h)]
      rfl

/-- The names of a query, between quotation marks. -/
theorem writes_quoted {names : List Value}
    (h : scope.lookup "query_parameters" = .value (.list names)) :
    (each "name" "query_parameters" [lit "\"", write "name", lit "\"",
      .print (.choice (.negation (.member (.name "loop") "last")) (.const (.str ", "))
        (.const (.str "")))]).Writes f scope
      (String.intercalate ", " (names.map fun name => "\"" ++ name.text ++ "\"")) := by
  rw [← List.map_id names] at h
  refine writes_each_separated id h fun index items name _ => ?_
  have hname : Scope.lookup
      (("name", .value name) :: ("loop", .loop index items) :: scope) "name" =
      .value name := Scope.lookup_cons_self
  have hloop : Scope.lookup
      (("name", .value name) :: ("loop", .loop index items) :: scope) "loop" =
      .loop index items := by
    rw [Scope.lookup_cons_ne (by decide), Scope.lookup_cons_self]
  refine .of_eq (.cons (writes_lit _) <| .cons (writes_name hname) <| .cons (writes_lit _) <|
    .cons (writes_choice (evalIn_not_last hloop)) writes_nil) ?_
  rw [String.append_empty, String.append_assoc, String.append_assoc]
  by_cases hlast : index = items.length
  · simp [hlast]
  · simp [hlast]

/-- The query after a path, with or without the parameters of the method. -/
theorem writes_parameters {b p : Bool} {names : List Value}
    (hflag : scope.lookup "has_query_parameters" = .value (.bool b))
    (hnames : scope.lookup "query_parameters" = .value (.list names))
    (hparameter : scope.lookup "has_parameter" = .value (.bool p)) :
    queryTree.Writes f scope (if b then " + getQueryParameters(" ++
      (if p then "parameters" else "\x7b\x7d") ++ ", [" ++
      String.intercalate ", " (names.map fun name => "\"" ++ name.text ++ "\"") ++ "])"
      else "") := by
  refine writes_onlyIf hflag fun _ => ?_
  refine .of_eq (.cons (writes_lit _) <| .cons (writes_pick hparameter) <| .cons (writes_lit _) <|
    .cons (writes_quoted hnames) <| .cons (writes_lit _) writes_nil) ?_
  simp only [String.append_assoc, String.append_empty]

theorem writes_payload {b j : Bool}
    (h : scope.lookup "has_request_body" = .value (.bool b))
    (hjson : scope.lookup "is_request_body_json" = .value (.bool j)) :
    bodyTree.Writes f scope (if b then ended [
      "        body: " ++ (if j then "JSON.stringify(body)" else "body") ++ ",",
      "        jsonBody: " ++ (if j then "true" else "false") ++ ","] else "") := by
  refine writes_onlyIf h fun _ => ?_
  refine .of_eq (.cons (writes_lit _) <| .cons (writes_pick hjson) <| .cons (writes_lit _) <|
    .cons (writes_pick hjson) <| .cons (writes_lit _) writes_nil) ?_
  simp only [ended_cons, ended_nil, String.append_assoc, String.append_empty]

end

namespace FunctionView

/-- The line that a method begins with. -/
def signature (v : FunctionView) : String :=
  "public " ++ v.functionName.text ++ "(" ++
    String.join (v.urlParameters.map fun name => name.text ++ ": string, ") ++
    (if v.hasParameter then "parameters: " ++ v.parameterClassName.text ++ ", " else "") ++
    (if v.hasRequestBody then "body: " ++ v.requestBodyClass.text ++ ", " else "") ++
    "interceptor?: RequestInterceptor): Promise<" ++
    (if v.hasResponse then v.responseClass.text else "void") ++ "> \x7b"

/-- The line with the path of a request and its query. -/
def pathLine (v : FunctionView) : String :=
  "        path: \x60" ++ String.ofList (Filter.pathTemplateText v.routePath.text.toList) ++ "\x60" ++
    (if v.hasQueryParameters then " + getQueryParameters(" ++
      (if v.hasParameter then "parameters" else "\x7b\x7d") ++ ", [" ++
      String.intercalate ", " (v.queryParameters.map fun name => "\"" ++ name.text ++ "\"") ++ "])"
      else "") ++ ","

/-- The lines about the body of a request. -/
def bodyLines (v : FunctionView) : List String :=
  if v.hasRequestBody then [
    "        body: " ++ (if v.isRequestBodyJson then "JSON.stringify(body)" else "body") ++ ",",
    "        jsonBody: " ++ (if v.isRequestBodyJson then "true" else "false") ++ ","]
  else []

/-- A method as it is printed, without its comment. -/
def declaration (v : FunctionView) : String :=
  joinLines ([
    v.signature,
    "    return http(\x7b",
    "        method: \"" ++ String.ofList (Text.upper v.httpMethod.text.toList) ++ "\",",
    v.pathLine] ++
    v.bodyLines ++ [
    "        jsonResponse: " ++ (if v.isJsonResponse then "true" else "false") ++ ",",
    "        interceptor: " ++
      (if v.forceInterceptor then "interceptor || this.interceptor" else "interceptor") ++ ",",
    "        errorHandler: this.errorHandler,",
    "    \x7d);"] ++
    ["\x7d"])

theorem declaration_ne_empty (v : FunctionView) : v.declaration ≠ "" := by
  rw [declaration, joinLines_append]
  intro h
  have hlist := congrArg String.toList h
  simp [String.toList_append] at hlist

/-- A function as it is printed: the comment block of its description, if it has one, and its
declaration. -/
def text (v : FunctionView) : String :=
  commentIf v.hasDescription v.description ++ v.declaration

/-- The packaged template prints every view of a function. -/
theorem render_text (v : FunctionView) (indentSize : Value) :
    (TemplateEngine.packaged indentSize).render (.str Packaged.functionName) v.toContext =
      .ok v.text := by
  have hupper : (Node.print (.filtered (.name "http_method") "upper" [])).Writes
      ⟨indentSize, some Packaged.functionName⟩ (Scope.ofContext v.toContext)
      (String.ofList (Text.upper v.httpMethod.text.toList)) :=
    writes_filtered .upper (evalIn_name (Scope.lookup_ofContext rfl)) rfl
  have hpath : (Node.print (.filtered (.name "original_path") "path_template" [])).Writes
      ⟨indentSize, some Packaged.functionName⟩ (Scope.ofContext v.toContext)
      (String.ofList (Filter.pathTemplateText v.routePath.text.toList)) :=
    writes_filtered .pathTemplate (evalIn_name (Scope.lookup_ofContext rfl)) rfl
  have hnames : (Scope.ofContext v.toContext).lookup "url_parameters" =
      .value (.list (v.urlParameters.map id)) := by
    rw [List.map_id]
    exact Scope.lookup_ofContext rfl
  refine function_stands.render_ok rfl (function_check _ _) <| .of_eq (.cons
      (writes_comment (b := v.hasDescription) (Scope.lookup_ofContext rfl)
        (Scope.lookup_ofContext rfl)) <|
    .cons (writes_lit _) <| .cons (writes_name (Scope.lookup_ofContext rfl)) <|
    .cons (writes_lit _) <|
    .cons (writes_each id hnames fun state name _ =>
      .cons (writes_name Scope.lookup_cons_self) <| .cons (writes_lit _) writes_nil) <|
    .cons (writes_optional (b := v.hasParameter) (Scope.lookup_ofContext rfl)
      (Scope.lookup_ofContext rfl)) <|
    .cons (writes_optional (b := v.hasRequestBody) (Scope.lookup_ofContext rfl)
      (Scope.lookup_ofContext rfl)) <|
    .cons (writes_lit _) <|
    .cons (writes_result (b := v.hasResponse) (Scope.lookup_ofContext rfl)
      (Scope.lookup_ofContext rfl)) <|
    .cons (writes_lit _) <| .cons hupper <| .cons (writes_lit _) <| .cons hpath <|
    .cons (writes_lit _) <|
    .cons (writes_parameters (b := v.hasQueryParameters) (p := v.hasParameter)
      (Scope.lookup_ofContext rfl) (Scope.lookup_ofContext rfl) (Scope.lookup_ofContext rfl)) <|
    .cons (writes_lit _) <|
    .cons (writes_payload (b := v.hasRequestBody) (j := v.isRequestBodyJson)
      (Scope.lookup_ofContext rfl) (Scope.lookup_ofContext rfl)) <|
    .cons (writes_lit _) <|
    .cons (writes_pick (b := v.isJsonResponse) (Scope.lookup_ofContext rfl)) <|
    .cons (writes_lit _) <|
    .cons (writes_pick (b := v.forceInterceptor) (Scope.lookup_ofContext rfl)) <|
    .cons (writes_lit _) writes_nil) ?_
  have hbody : ended v.bodyLines = if v.hasRequestBody then ended [
      "        body: " ++ (if v.isRequestBodyJson then "JSON.stringify(body)" else "body") ++ ",",
      "        jsonBody: " ++ (if v.isRequestBodyJson then "true" else "false") ++ ","] else "" := by
    rw [bodyLines, apply_ite ended, ended_nil]
  unfold text declaration signature pathLine
  simp only [commentIf, joinLines_append, ended_append, hbody, ended_cons, ended_nil,
    String.append_assoc, String.append_empty, id_eq]

end FunctionView

namespace PropertyView

/-- A property as it is printed, without its comment. -/
def declaration (v : PropertyView) : String :=
  v.propertyName.text ++ (if v.required then "" else "?") ++ ": " ++ v.value.text ++
    (if v.isArray then "[]" else "") ++ ";"

theorem declaration_ne_empty (v : PropertyView) : v.declaration ≠ "" := by
  intro h
  have hlist := congrArg String.toList h
  simp [declaration, String.toList_append] at hlist

/-- A property as it is printed: the comment block of its description, if it has one, and its
declaration. -/
def text (v : PropertyView) : String :=
  commentIf v.hasDescription v.description ++ v.declaration

theorem text_ne_empty (v : PropertyView) : v.text ≠ "" :=
  fun h => v.declaration_ne_empty (String.append_eq_empty_iff.mp h).2

/-- The packaged template prints every view of a property. -/
theorem render_text (v : PropertyView) (indentSize : Value) :
    (TemplateEngine.packaged indentSize).render (.str Packaged.propertyName) v.toContext =
      .ok v.text := by
  refine property_stands.render_ok rfl (property_check _ _) <| .of_eq (.cons
      (writes_comment (b := v.hasDescription) (Scope.lookup_ofContext rfl)
        (Scope.lookup_ofContext rfl)) <|
    .cons (writes_name (Scope.lookup_ofContext rfl)) <|
    .cons (writes_pick (b := v.required) (Scope.lookup_ofContext rfl)) <| .cons (writes_lit _) <|
    .cons (writes_name (Scope.lookup_ofContext rfl)) <|
    .cons (writes_pick (b := v.isArray) (Scope.lookup_ofContext rfl)) <|
    .cons (writes_lit _) writes_nil) ?_
  simp only [text, declaration, commentIf, String.append_assoc, String.append_empty]

end PropertyView

end TypeStencil
