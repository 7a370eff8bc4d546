import SqlTemplate.Statement.Compiled
import SqlTemplate.Statement.Config
import SqlTemplate.Template.Fill
import SqlTemplate.Value.Comparison

/-! Compilation of templates. A compiler remembers the segments of the templates it was asked for
last, the most recent at the end, and counts how often that saved the cutting. -/
namespace SqlTemplate

open Template

/-- A compiler of templates, with the templates it remembers. -/
structure Compiler where
  /-- What operations are told apart by, where the configuration asks for parsing. -/
  parser : Operation.Parser
  config : StatementConfig
  /-- Remembered templates with their segments, the least recently asked for in front. -/
  cache : List (String × List Segment)
  hits : Nat
  misses : Nat

namespace Compiler

def new (parser : Operation.Parser) (config : StatementConfig) : Compiler :=
  { parser := parser, config := config, cache := [], hits := 0, misses := 0 }

/-- Forgets all templates and counts. -/
def clear (compiler : Compiler) : Compiler := new compiler.parser compiler.config

def isFull (size : Value) (cache : List (String × List Segment)) : Bool :=
  match size.isAtMost cache.length with
  | .ok full => full
  | .error _ => false

/-- Room for one more template: the least recent one goes when the cache is full. -/
def makeRoom (size : Value) (cache : List (String × List Segment)) :
    List (String × List Segment) :=
  if isFull size cache then cache.drop 1 else cache

/-- The size of the cache and its bound, and how often a template was remembered or not. -/
def cacheInfo (compiler : Compiler) : List (String × Value) :=
  [("size", .int compiler.cache.length), ("max_size", compiler.config.templateCacheSize),
    ("hits", .int compiler.hits), ("misses", .int compiler.misses)]

/-- The segments of a template by way of the cache. A remembered template becomes the most recent
one; a new one is remembered. -/
def fetch (compiler : Compiler) (template : String) : List Segment × Compiler :=
  match compiler.cache.lookup template with
  | some found =>
    let others := compiler.cache.filter fun entry => entry.1 != template
    (found, { compiler with cache := others ++ [(template, found)], hits := compiler.hits + 1 })
  | none =>
    let made := segments template
    (made, { compiler with
      cache := makeRoom compiler.config.templateCacheSize compiler.cache ++ [(template, made)]
      misses := compiler.misses + 1 })

/-- The segments of a template. Nothing is remembered if the number of templates to be remembered
is not positive; what is no number at all is refused. -/
def tokenize (compiler : Compiler) (template : String) :
    Except FaultKind (List Segment × Compiler) := do
  if ← compiler.config.templateCacheSize.isAtMost 0 then return (segments template, compiler)
  else return compiler.fetch template

/-- The compiled statement of some SQL; the operation is that of the SQL. -/
def finish (parser : Operation.Parser) (config : StatementConfig) (template sql : String)
    (queue : Queue) (mode : TemplateMode) : Compiled :=
  { sql := sql, queue := queue, mode := mode, template := template
    operation :=
      Operation.detectWith parser sql config.dialectName config.enableParsing.isTruthy }

/-- The entries of the only argument of a template without tokens, which must be a mapping of
markers. -/
def namedQueue : List Value → Except CompileFault Queue
  | [argument] =>
    if argument.isNamedMapping then
      .ok (Queue.enqueueNamed [] (argument.entries?.getD []))
    else .error .styleMismatch
  | _ => .error .styleMismatch

/-- Compiles cut segments with arguments, of which there is at least one. -/
def compileSegments (parser : Operation.Parser) (config : StatementConfig) (template : String)
    (pieces : List Segment) (arguments : List Value) : Except CompileFault Compiled :=
  let count := (tokens pieces).length
  if count = 0 then
    (namedQueue arguments).map fun queue => finish parser config template template queue .named
  else if arguments.length < count then .error (.tooFewArguments count arguments.length)
  else if arguments.length > count then .error (.tooManyArguments count arguments.length)
  else
    (fill pieces arguments).map fun piece =>
      finish parser config template piece.sql piece.entries .template

/-- Compiles a template with its arguments. A template without arguments is taken as it is and is
not remembered. -/
def compile (compiler : Compiler) (template : String) (arguments : List Value) :
    Except CompileFault Compiled × Compiler :=
  if arguments.isEmpty then
    (.ok (finish compiler.parser compiler.config template template [] .static), compiler)
  else
    match compiler.tokenize template with
    | .error kind => (.error (.cacheSize kind), compiler)
    | .ok (pieces, after) =>
      (compileSegments compiler.parser compiler.config template pieces arguments, after)

/-- The compiled statement of SQL that was built together with its entries. -/
def fromQueue (compiler : Compiler) (sql : String) (queue : Queue) : Compiled :=
  finish compiler.parser compiler.config sql sql queue .template

end Compiler

/-- Compiles a template once. Without a configuration the standard one is used. -/
def compileTemplate (parser : Operation.Parser) (template : String) (arguments : List Value)
    (config : Option StatementConfig) : Except CompileFault Compiled :=
  ((Compiler.new parser (config.getD .standard)).compile template arguments).1

end SqlTemplate
