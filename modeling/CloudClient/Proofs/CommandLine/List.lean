import CloudClient.CommandLine
import CloudClient.Proofs.Listing.Prefix

/-!
# Lists on the command line

`list` prints the payloads of the first resources as the server sent them, all of them or as many as
the limit allows, and asks for no page past the last one that is printed.
-/

namespace CloudClient

theorem Resource.ReadFrom.payload {registry : Registry} {type : ResourceType}
    {parent? : Option ParentKey} {item : Json} {r : Resource}
    (h : ReadFrom registry type parent? item r) : CommandLine.payloadOf r = item := by
  obtain ⟨now, log, log', h⟩ := h
  obtain ⟨id, -, h⟩ := ofItem_eq_ok.mp h
  obtain ⟨s, -, hfill⟩ := ofPayload_eq_ok.mp h
  obtain ⟨fields, m, -, -, rfl⟩ := fill_eq_ok.mp hfill
  rfl

namespace Feed
variable {f : Feed} {request : CommandLine.ListRequest} {w : World}

theorem payloads_eq {items : List Json} {rs : List Resource} (h : List.Forall₂ f.Reads items rs) :
    rs.map CommandLine.payloadOf = items := by
  induction h with
  | nil => rfl
  | cons hread _ ih => rw [List.map_cons, hread.payload, ih]

/-- The feed is what the command line asks for. -/
structure AskedBy (f : Feed) (request : CommandLine.ListRequest) : Prop where
  kind : f.client.registry.get request.kind = .ok f.type
  parent : f.parent? = CommandLine.parentKey? request.parents
  path : Endpoint.collection f.type f.parent? = .ok f.path
  filter : ∃ filter, CommandLine.buildFilter f.client.registry request = .ok filter ∧
    f.filter? = some filter

def printedCount (f : Feed) (request : CommandLine.ListRequest) : Nat :=
  f.shown (request.limit?.map Int.toNat)

/-- The command prints the first items up to the limit, or all of them, and asks for the pages that
hold them, each once and in order, or for the first page if nothing is printed. -/
theorem runCommand_list (hf : f.Answering) (hasked : f.AskedBy request)
    (hnetwork : w.network = f.server) :
    ∃ w' sent, CommandLine.runCommand f.client (.list request) w =
        (.ok (CommandLine.printed (.arr (f.items.take (f.printedCount request)))), w') ∧
      w'.sent = w.sent ++ sent ∧
      f.Requests (max 1 (Listing.chunkCount (f.printedCount request) f.length)) sent := by
  obtain ⟨filter, hbuild, hfilter⟩ := hasked.filter
  obtain ⟨list, w', rs, list', w'', sent, hopened, hstream, hread, hsent, hrequests⟩ :=
    stream_prefix hf hnetwork (request.limit?.map Int.toNat)
  refine ⟨w'', sent, ?_, hsent, hrequests⟩
  have hlist : f.client.list request.kind (CommandLine.parentKey? request.parents) (some filter) w =
      (.ok list, w') := by
    rw [← hasked.parent, ← hfilter, Listing.list_eq_opened hasked.kind hasked.path]
    exact hopened
  have hrun : CommandLine.runList f.client request filter w =
      (.ok (CommandLine.printed (.arr (rs.map CommandLine.payloadOf))), w'') := by
    refine (Step.bind_of_ok hlist).trans ?_
    dsimp only
    rw [hstream]
    rfl
  rw [payloads_eq hread] at hrun
  unfold CommandLine.runCommand
  dsimp only
  rw [hbuild]
  dsimp only
  unfold CommandLine.toFailure
  rw [hrun]
  rfl

/-! ## Two nodes without losses -/

def oneOnly : CommandLine.ListRequest := { kind := "node", limit? := some 1 }

/-- Two nodes on a page each, asked for with a limit that the first page reaches. -/
def steadyNodes : Feed :=
  { nodes with filter? := some { limit? := some 1 }, server := fun _ r => nodes.server [] r }

theorem nodes_request {page : Nat} {r : Request} (h : steadyNodes.request page = .ok r) :
    nodes.request page = .ok { r with filter? := none } := by
  obtain ⟨url, hurl, rfl⟩ := Client.pageRequest_eq_ok h
  have hnodes : nodes.client.url nodes.path = .ok url := hurl
  rw [request, Client.pageRequest, hnodes]
  rfl

theorem steadyNodes_serves : steadyNodes.Serves where
  positive := nodes_serves.positive
  accepted := nodes_serves.accepted
  answers := by
    intro page r earlier answer hr hanswer
    have hserver : (nodes.server [] { r with filter? := none }).json? = some answer := hanswer
    exact nodes_serves.answers (nodes_request hr) hserver

theorem steadyNodes_answering : steadyNodes.Answering := by
  have hsendable : (steadyNodes.request 0).toOption.any
      (fun r => (Exchange.fault? r).isNone) = true := by decide +kernel
  have hanswered : ∀ page < 2, (steadyNodes.request page).toOption.any
      (fun r => (nodes.server [] r).json?.isSome) = true := by decide +kernel
  refine ⟨steadyNodes_serves, ?_, fun {page r} earlier hpage hr => ?_⟩
  · cases hr : steadyNodes.request 0 with
    | error e =>
      rw [hr] at hsendable
      cases hsendable
    | ok r =>
      rw [hr] at hsendable
      exact ⟨r, rfl, Option.isNone_iff_eq_none.mp hsendable⟩
  · have hanswer := hanswered page hpage
    rwa [hr] at hanswer

theorem runCommand_list_nodes : ∃ w' sent,
    CommandLine.runCommand steadyNodes.client (.list oneOnly) { network := steadyNodes.server } =
        (.ok "[\n  \x7b\n    \"id\": 1\n  \x7d\n]\n", w') ∧
      w'.sent = sent ∧ steadyNodes.Requests 1 sent := by
  have hasked : steadyNodes.AskedBy oneOnly := ⟨rfl, rfl, rfl, _, rfl, rfl⟩
  obtain ⟨w', sent, hrun, hsent, hrequests⟩ :=
    runCommand_list (w := { network := steadyNodes.server }) steadyNodes_answering hasked rfl
  have hprinted : CommandLine.printed (.arr (steadyNodes.items.take
      (steadyNodes.printedCount oneOnly))) = "[\n  \x7b\n    \"id\": 1\n  \x7d\n]\n" := by
    decide +kernel
  rw [hprinted] at hrun
  exact ⟨w', sent, hrun, hsent, hrequests⟩

end Feed
end CloudClient
