import DocReview.Screen.Page
import DocReview.Table.Columns
import DocReview.Text.Blank
import DocReview.Text.LetterCase
/-!
# Explorer — looking into a database server

The explorer lists the schemas of a server and the tables of the chosen one, previews a table, and runs queries that
start with the word `select`.
-/
namespace DocReview.Explorer

open Screen

def schemas : Draw (List String) := do
  put (.executed .none "SHOW DATABASES")
  return (← read).server.databases.map Prod.fst

def tables (schema : Value) : Draw (List String) := do
  put (.executed schema "SHOW TABLES")
  match schema with
  | .str s => return (lookup? s (← read).server.databases).getD []
  | _ => return []

/-- Reads the result of a query, with its columns made distinct. -/
def fetch (schema : Value) (query : String) : Draw (Except Fault Frame) := do
  put (.queried schema query)
  match lookup? query (← read).server.queries with
  | some (columns, rows) => return .ok (Frame.numbered (Table.distinctColumns columns) rows)
  | none => return .error (.service "no such query")

def isSelect (query : String) : Bool :=
  "select".toList.isPrefixOf (Text.lower (Text.trim query.toList))

def preview (schema : Value) : Draw Unit := do
  let names ← tables schema
  put (.subheader "Tables")
  let table ← choose "Select Table" names
  if table.truthy then
    put (.subheader ("Preview: " ++ table.text ++ " (Top 10 rows)"))
    let rows ← fetch schema ("SELECT * FROM " ++ table.text ++ " LIMIT 10")
    put (.frame (← check rows))

/-- Runs the reader's query; without a schema there is nothing to run it on. -/
def execute (schema : Value) (query : String) : Draw Unit := do
  if isSelect query then
    let result ← if schema.truthy then fetch schema query else pure (.error (.unbound "conn_db"))
    match result with
    | .ok frame =>
      put (.success "Query executed successfully")
      put (.frame frame)
    | .error f => put (.error ("Error executing query:\n" ++ f.message))
  else put (.error "Only SELECT queries are allowed")

def page : Draw Unit := do
  put (.page "MySQL Explorer")
  put (.title "MySQL Database Explorer")
  match (← read).server.refusal with
  | some reason =>
    put (.error ("Connection failed: " ++ reason))
    throw .stop
  | none =>
    put (.success "Connected to MySQL")
    let schema ← choose "Select Schema" (← schemas)
    if schema.truthy then preview schema
    put (.subheader "SQL Query Executor")
    let query ← textField "Write SELECT query here"
    if ← button "Execute Query" then execute schema query
    put .closed
    put .closed

end DocReview.Explorer
