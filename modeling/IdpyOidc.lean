import IdpyOidc.Client.Value
import IdpyOidc.Client.Service
import IdpyOidc.Client.RequestArgs
import IdpyOidc.Client.Construct
import IdpyOidc.Client.Reuse
import IdpyOidc.Client.UrlInfo
import IdpyOidc.Client.Response
import IdpyOidc.Client.ResponseOutcome
import IdpyOidc.Client.Request
import IdpyOidc.Client.CallbackUris
import IdpyOidc.Client.Frame
import IdpyOidc.Client.Session
import IdpyOidc.Client.Supports
