import TypeStencil.Template.Packaged

/-!
The trees of the templates that come with the library. Reading a template is compared with its tree
piece by piece, so that the whole comparison is a computation.
-/
namespace TypeStencil.Template

/-- Whether two expressions are the same, for the forms that the templates of the library use. -/
def Expr.agrees : Expr → Expr → Bool
  | .name m, .name n => m == n
  | .const (.str s), .const (.str t) => s == t
  | .member e m, .member e' n => e.agrees e' && m == n
  | .filtered e m [], .filtered e' n [] => e.agrees e' && m == n
  | .negation e, .negation e' => e.agrees e'
  | .choice c y n, .choice c' y' n' => c.agrees c' && y.agrees y' && n.agrees n'
  | _, _ => false
termination_by structural e => e

mutual

/-- Whether two nodes are the same, for the forms that the templates of the library use. -/
def Node.agrees : Node → Node → Bool
  | .text s, .text t => s == t
  | .print e, .print e' => e.agrees e'
  | .condition test body [] otherwise, .condition test' body' [] otherwise' =>
    test.agrees test' && agreeAll body body' && agreeAll otherwise otherwise'
  | .loop (.name x) source none body otherwise, .loop (.name x') source' none body' otherwise' =>
    x == x' && source.agrees source' && agreeAll body body' && agreeAll otherwise otherwise'
  | _, _ => false
termination_by structural node => node

def agreeAll : List Node → List Node → Bool
  | [], [] => true
  | a :: as, b :: bs => a.agrees b && agreeAll as bs
  | _, _ => false
termination_by structural l => l

end

theorem Expr.eq_of_agrees {a b : Expr} (h : a.agrees b = true) : a = b := by
  fun_induction Expr.agrees a b with
  | case1 m n => rw [beq_iff_eq.mp h]
  | case2 s t => rw [beq_iff_eq.mp h]
  | case3 e m e' n ih =>
      rw [Bool.and_eq_true, beq_iff_eq] at h
      rw [ih h.1, h.2]
  | case4 e m e' n ih =>
      rw [Bool.and_eq_true, beq_iff_eq] at h
      rw [ih h.1, h.2]
  | case5 e e' ih => rw [ih h]
  | case6 c y n c' y' n' ihc ihy ihn =>
      rw [Bool.and_eq_true, Bool.and_eq_true] at h
      rw [ihc h.1.1, ihy h.1.2, ihn h.2]
  | case7 => cases h

mutual

theorem Node.eq_of_agrees : ∀ (a b : Node), a.agrees b = true → a = b
  | .text s, .text t, h => by
      rw [Node.agrees, beq_iff_eq] at h
      rw [h]
  | .print e, .print e', h => by
      rw [Node.agrees] at h
      rw [Expr.eq_of_agrees h]
  | .condition test body [] otherwise, .condition test' body' [] otherwise', h => by
      rw [Node.agrees, Bool.and_eq_true, Bool.and_eq_true] at h
      rw [Expr.eq_of_agrees h.1.1, eq_of_agreeAll body body' h.1.2,
        eq_of_agreeAll otherwise otherwise' h.2]
  | .loop (.name x) source none body otherwise,
      .loop (.name x') source' none body' otherwise', h => by
      rw [Node.agrees, Bool.and_eq_true, Bool.and_eq_true, Bool.and_eq_true, beq_iff_eq] at h
      rw [h.1.1.1, Expr.eq_of_agrees h.1.1.2, eq_of_agreeAll body body' h.1.2,
        eq_of_agreeAll otherwise otherwise' h.2]

theorem eq_of_agreeAll : ∀ (as bs : List Node), agreeAll as bs = true → as = bs
  | [], [], _ => rfl
  | a :: as, b :: bs, h => by
      rw [agreeAll, Bool.and_eq_true] at h
      rw [Node.eq_of_agrees a b h.1, eq_of_agreeAll as bs h.2]
  | [], _ :: _, h => by cases h
  | _ :: _, [], h => by cases h

end

/-- Whether a source text is read as a tree. -/
def readsAs (source : List Char) (tree : List Node) : Bool :=
  match Grammar.ofSource source with
  | .ok found => agreeAll found tree
  | .error _ => false

theorem ofSource_of_readsAs {source : List Char} {tree : List Node}
    (h : readsAs source tree = true) : Grammar.ofSource source = .ok tree := by
  unfold readsAs at h
  cases hs : Grammar.ofSource source with
  | error problem =>
      rw [hs] at h
      cases h
  | ok found =>
      rw [hs] at h
      rw [eq_of_agreeAll found tree h]

/-- Lines with a newline at the end of each. -/
def ended (lines : List String) : String :=
  String.join (lines.map (· ++ "\n"))

namespace Packaged

def constructorLine : String :=
  "constructor(private interceptor?: RequestInterceptor, " ++
    "private errorHandler?: ErrorHandler) \x7b\x7d"

def lit (s : String) : Node := .text s.toList
def write (n : String) : Node := .print (.name n)

/-- One of two texts, by a flag. -/
def pick (flag yes no : String) : Node :=
  .print (.choice (.name flag) (.const (.str yes)) (.const (.str no)))

def onlyIf (flag : String) (body : List Node) : Node :=
  .condition (.name flag) body [] []

def each (x source : String) (body : List Node) : Node :=
  .loop (.name x) (.name source) none body []

/-- What an expression stands for, moved to the right. -/
def indented (e : Expr) : Node := .print (.filtered e "indent" [])

def commentTree : Node :=
  onlyIf "has_description" [
    lit (ended ["/**"]),
    each "line" "description" [lit " * ", write "line", lit (ended [""])],
    lit (ended [" */"])]

def propertyTree : List Node := [
  commentTree,
  write "property_name", pick "required" "" "?", lit ": ", write "value", pick "is_array" "[]" "",
  lit ";"]

/-- An argument of a method that may be left out. -/
def argument (flag before n : String) : Node := onlyIf flag [lit before, write n, lit ", "]

def responseTree : Node :=
  .print (.choice (.name "has_response") (.name "response_class") (.const (.str "void")))

def queryTree : Node :=
  onlyIf "has_query_parameters" [
    lit " + getQueryParameters(", pick "has_parameter" "parameters" "\x7b\x7d", lit ", [",
    each "name" "query_parameters" [
      lit "\"", write "name", lit "\"",
      .print (.choice (.negation (.member (.name "loop") "last")) (.const (.str ", "))
        (.const (.str "")))],
    lit "])"]

def bodyTree : Node :=
  onlyIf "has_request_body" [
    lit "        body: ", pick "is_request_body_json" "JSON.stringify(body)" "body",
    lit (ended [","] ++ "        jsonBody: "), pick "is_request_body_json" "true" "false",
    lit (ended [","])]

def functionTree : List Node := [
  commentTree,
  lit "public ", write "function_name", lit "(",
  each "name" "url_parameters" [write "name", lit ": string, "],
  argument "has_parameter" "parameters: " "parameter_class_name",
  argument "has_request_body" "body: " "request_body_class",
  lit "interceptor?: RequestInterceptor): Promise<", responseTree,
  lit (ended ["> \x7b", "    return http(\x7b"] ++ "        method: \""),
  .print (.filtered (.name "http_method") "upper" []),
  lit (ended ["\","] ++ "        path: \x60"),
  .print (.filtered (.name "original_path") "path_template" []),
  lit "\x60", queryTree,
  lit (ended [","]), bodyTree,
  lit "        jsonResponse: ", pick "is_json_response" "true" "false",
  lit (ended [","] ++ "        interceptor: "),
  pick "force_interceptor" "interceptor || this.interceptor" "interceptor",
  lit (ended [",", "        errorHandler: this.errorHandler,", "    \x7d);"] ++ "\x7d")]

def importsTree : Node :=
  onlyIf "has_imports" [
    each "line" "imports" [write "line", lit (ended [""])],
    lit (ended [""])]

def blockTree : Node := each "line" "block" [indented (.name "line"), lit (ended [""])]

def propertiesTree : Node := onlyIf "has_properties" [each "block" "properties" [blockTree]]

def functionsTree : Node :=
  onlyIf "has_functions" [
    onlyIf "has_properties" [lit (ended [""])],
    indented (.const (.str constructorLine)), lit (ended [""]),
    each "block" "functions" [lit (ended [""]), blockTree]]

def classTree : List Node := [
  importsTree,
  commentTree,
  lit "export ", pick "is_interface" "interface" "class", lit " ", write "type_name",
  lit (ended [" \x7b"]),
  propertiesTree,
  functionsTree,
  lit "\x7d"]

-- Literals are rewritten as lists of characters first: evaluating one would decode its bytes.
theorem propertyTemplate_reads :
    Grammar.ofSource propertyTemplate.toList = .ok propertyTree := by
  refine ofSource_of_readsAs ?_
  simp only [propertyTemplate, commentBlock, joinLines, List.cons_append, List.nil_append,
    List.map_cons, List.map_nil, String.toList_intercalate]
  simp only [tag, put, propertyTree, commentTree, onlyIf, each, write, pick, lit, ended,
    List.map_cons, List.map_nil, List.flatMap_cons, List.flatMap_nil, String.toList_append,
    String.toList_join]
  repeat rewrite [String.toList_ofList]
  decide +kernel

theorem functionTemplate_reads :
    Grammar.ofSource functionTemplate.toList = .ok functionTree := by
  refine ofSource_of_readsAs ?_
  simp only [functionTemplate, commentBlock, joinLines, List.cons_append, List.nil_append,
    List.map_cons, List.map_nil, String.toList_intercalate]
  simp only [tag, put, functionTree, commentTree, argument, responseTree, queryTree, bodyTree,
    onlyIf, each, write, pick, lit, ended, List.map_cons, List.map_nil, List.flatMap_cons,
    List.flatMap_nil, String.toList_append, String.toList_join]
  repeat rewrite [String.toList_ofList]
  decide +kernel

theorem classTemplate_reads : Grammar.ofSource classTemplate.toList = .ok classTree := by
  refine ofSource_of_readsAs ?_
  simp only [classTemplate, commentBlock, joinLines, List.cons_append, List.nil_append,
    List.map_cons, List.map_nil, String.toList_intercalate]
  simp only [tag, put, classTree, importsTree, commentTree, propertiesTree, functionsTree,
    blockTree, onlyIf, each, write, pick, lit, ended, List.map_cons, List.map_nil,
    List.flatMap_cons, List.flatMap_nil, String.toList_append, String.toList_join]
  repeat rewrite [String.toList_ofList]
  decide +kernel

end Packaged

end TypeStencil.Template
