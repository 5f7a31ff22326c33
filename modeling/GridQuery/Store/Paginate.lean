import GridQuery.Page
import GridQuery.Store.Run

/-!
Running a query page by page.
-/

namespace GridQuery.Store

def paginate (database : Database) (query : Query) (page : Page) (serialize : Row → Value) :
    Outcome Envelope := do
  let total ← count database query
  let rows ← slice database query page.offset page.perPage
  let totalPages ← Page.count total page.perPage
  .ok ⟨rows.map serialize, total, page, totalPages⟩

end GridQuery.Store
