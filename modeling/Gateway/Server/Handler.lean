import Gateway.Files.Responder
import Gateway.Proxy.Forward
import Gateway.Route

/-!
# Answering a request

A gateway answers each request in one of three ways, by the route of its target: with a file, with
what a backend says, or with the 404 page.  Only the second way touches the world, which is the
pool of backends and the network.
-/

namespace Gateway

open Gateway.Http

/-- What a gateway answers requests with. -/
structure Handler (σ : Type) where
  files : Files.Responder
  tree : Files.Tree
  /-- The limits of an exchange with a backend. -/
  settings : Proxy.Settings
  network : Proxy.Network σ

/-- What changes while requests are answered. -/
structure World (σ : Type) where
  pool : Proxy.Pool
  net : σ

namespace Handler

def handle {σ : Type} (h : Handler σ) (r : Request) (w : World σ) : Response × World σ :=
  match Route.ofTarget r.target with
  | .file => (h.files.serve h.tree r.target, w)
  | .proxy target =>
    let (response, pool, net) :=
      Proxy.forward h.settings h.network (r.withTarget target) w.pool w.net
    (response, { pool, net })
  | .notFound => (.notFound, w)

/-- The limits of an exchange that a configuration sets. -/
def settingsOf (c : Config) : Proxy.Settings where
  maxRequestSize := c.server.maxRequestSize
  maxResponseSize := c.proxy.maxResponseSize
  policy := c.proxy.statusPolicy

def poolOf (c : Config) : Proxy.Pool where
  backends := c.proxy.backends.map fun b => { url := b.url, name := b.name }

/-- The handler that a configuration describes, on a file tree and a network.  The served root is
relative to the location `base`. -/
def ofConfig {σ : Type} (c : Config) (tree : Files.Tree) (base : Files.Location)
    (network : Proxy.Network σ) : Except Files.FileError (Handler σ) :=
  (Files.Responder.mount tree base (Utf8.encode c.staticFiles.root)
      c.staticFiles.maxFileSize).map
    fun files => { files, tree, settings := settingsOf c, network }

end Handler

end Gateway
