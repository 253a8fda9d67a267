/-
The requests to qBittorrent, and its answers.

The adapter sends one of a few requests.  What comes back is a failure of the network or a response,
of which the model keeps what the adapter looks at: the status, the text, and what the parsers of
the adapter make of the body.

Main definitions:

* `Adapters.QbRequest` — the requests that the executor's adapter may send;
* `Adapters.QbAddForm` — the form of the request that adds a torrent;
* `Adapters.HttpOutcome`, `Adapters.QbResponse` — what comes back.
-/

import LibSeek.Schemas.Qbittorrent
import LibSeek.Services.TorrentValidation

set_option relaxedAutoImplicit false
set_option autoImplicit false

namespace LibSeek.Adapters

open LibSeek.Core LibSeek.Schemas LibSeek.Services

/-! ### Requests -/

/-- `QbAddStateField`: the name of the flag that keeps a torrent from being started. -/
inductive QbAddStateField where
  | paused | stopped
  deriving DecidableEq, Repr

/-- The form of `/api/v2/torrents/add`; the flag is set to a text. -/
structure QbAddForm where
  savepath : String
  category : String
  tags : String
  stateField : QbAddStateField
  stateValue : String
  deriving DecidableEq, Repr

/-- The requests that the adapter of the executor sends. -/
inductive QbRequest where
  | login
  | webApiVersion
  | torrentsInfo (hashes : List String)
  | categories
  | createCategory (category savePath : String)
  | addTorrent (form : QbAddForm) (torrent : Bytes)
  deriving DecidableEq

/-- `_WRITE_REQUESTS`. -/
def QbRequest.isWrite : QbRequest → Bool
  | createCategory _ _ => true
  | addTorrent _ _ => true
  | _ => false

/-- Whether a request is the one that adds a torrent. -/
def QbRequest.isAdd : QbRequest → Bool
  | addTorrent _ _ => true
  | _ => false

/-! ### Answers -/

/-- A response, read to its end: its status, whether `_looks_like_html` holds of it, its text, the
session cookie, and what `_json` and the validation of the items make of its body, as a list of
torrents and as the names of categories. -/
structure QbResponse where
  statusCode : ℕ := 200
  isHtml : Bool := false
  text : String := ""
  setsSid : Bool := false
  torrents : Except AppError (List QbTorrent) := .ok []
  categories : Except AppError (List String) := .ok []

/-- What comes back of a request that was sent. -/
inductive HttpOutcome where
  | timeout
  | networkError
  | tooLarge
  | failed (name : String)
  | answered (response : QbResponse)

end LibSeek.Adapters
